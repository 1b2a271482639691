import Kvmulate.Devices.CmosPorts
import Kvmulate.Lib.Component
import Kvmulate.Vga.RomImage
import Mathlib.Tactic.IntervalCases

/-!
# The devices as components of the machine

A handler of the table works on a part of the machine that no other handler
touches.  Such a device does the same in the machine as on its own.
-/

namespace Kvmulate.Devices

open DeviceLib Kvmulate.Io

/-! ## What a handler leaves alone -/

/-- What `view` shows is not in the parts of the handlers at other places than
`indices`. -/
structure SparedBy {β : Type} (indices : List Nat) (view : Machine → β) :
    Prop where
  cmos : 0 ∈ indices ∨
    ∀ after machine, view (cmosPart.set after machine) = view machine
  a20 : 1 ∈ indices ∨
    ∀ after machine, view (a20Part.set after machine) = view machine
  dma : (3 ∈ indices ∧ 4 ∈ indices ∧ 5 ∈ indices) ∨
    ∀ after machine, view (dmaPart.set after machine) = view machine
  pci : 6 ∈ indices ∨
    ∀ after machine, view (pciPart.set after machine) = view machine
  para : 7 ∈ indices ∨
    ∀ after machine, view (paraPart.set after machine) = view machine
  kbd : 8 ∈ indices ∨
    ∀ after machine, view (kbdPart.set after machine) = view machine
  vga : (15 ∈ indices ∧ 16 ∈ indices) ∨
    ∀ after machine, view (vgaPart.set after machine) = view machine
  floppy : 19 ∈ indices ∨
    ∀ after machine, view (floppyPart.set after machine) = view machine
  ata : 20 ∈ indices ∨
    ∀ after machine, view (ataPart.set after machine) = view machine

theorem SparedBy.spares {β : Type} {indices : List Nat}
    {view : Machine → β} (spared : SparedBy indices view) {host : Host}
    {other : Nat} {found : IoHandler Machine} (apart : other ∉ indices)
    (placed : (registeredHandlers host)[other]? = some found) :
    found.Spares view := by
  have inside : other < 21 := (List.getElem?_eq_some_iff.mp placed).1
  have nothing : ∀ after machine,
      view (noPart.set after machine) = view machine := fun _ _ => rfl
  have dma (own : 3 ∉ indices ∨ 4 ∉ indices ∨ 5 ∉ indices) :=
    spared.dma.resolve_left fun all =>
      own.elim (· all.1) fun rest => rest.elim (· all.2.1) (· all.2.2)
  have vga (own : 15 ∉ indices ∨ 16 ∉ indices) :=
    spared.vga.resolve_left fun all => own.elim (· all.1) (· all.2)
  intro state access data next served
  interval_cases other <;> cases placed
  · exact spares_onPart (spared.cmos.resolve_left apart) served
  · exact spares_onPart (spared.a20.resolve_left apart) served
  · exact spares_onPart nothing served
  · exact spares_onPart (dma (.inl apart)) served
  · exact spares_onPart (dma (.inr (.inl apart))) served
  · exact spares_onPart (dma (.inr (.inr apart))) served
  · exact spares_onPart (spared.pci.resolve_left apart) served
  · exact spares_onPart (spared.para.resolve_left apart) served
  · exact spares_onPart (spared.kbd.resolve_left apart) served
  · exact spares_onPart nothing served
  · exact spares_onPart nothing served
  · exact spares_onPart nothing served
  · exact spares_onPart nothing served
  · exact spares_onPart nothing served
  · exact spares_onPart nothing served
  · exact spares_onPart (vga (.inl apart)) served
  · exact spares_onPart (vga (.inr apart)) served
  · exact spares_onPart nothing served
  · exact spares_onPart nothing served
  · exact spares_onPart (spared.floppy.resolve_left apart) served
  · exact spares_onPart (spared.ata.resolve_left apart) served

/-! ## Port accesses -/

/-- The accesses that one handler serves, each with the host of its moment. -/
def handlerCall {τ : Type} (handler : Host → IoHandler τ) :
    Call τ (Host × IoAccess) IoData :=
  fun state (host, access) => (handler host).serve state access

/-- A step that is not an access to a port. -/
def DeviceStep.OffPorts : DeviceStep → Prop
  | .port _ _ => False
  | _ => True

section Ports

variable {host : Host} {machine next : Machine} {access : IoAccess}
variable {data : IoData} {response : Vga.VideoResponse}

/-- A port access as a step of the machine. -/
theorem deviceStep_port :
    deviceStep machine (.port host access) = (do
      let (data, next) ← portAccess host machine access
      pure (.data data, next)) := rfl

theorem deviceStep_port_eq_ok_iff :
    deviceStep machine (.port host access) = .ok (response, next) ↔
      ∃ data, portAccess host machine access = .ok (data, next) ∧
        response = .data data := by
  rw [deviceStep_port, Outcome.bind_eq_ok_iff]
  constructor
  · intro stepped
    rcases stepped with ⟨⟨data, after⟩, accessed, built⟩
    cases built
    exact ⟨data, accessed, rfl⟩
  · intro accessed
    rcases accessed with ⟨data, accessed, rfl⟩
    exact ⟨(data, next), accessed, rfl⟩

theorem portAccess_of_unclaimed
    (unclaimed : servedBy access.port = none)
    (accessed : portAccess host machine access = .ok (data, next)) :
    next = machine := by
  rcases exists_registered host with ⟨table, built, handlers⟩
  unfold portAccess at accessed
  rw [built] at accessed
  refine state_of_unclaimed ?_ accessed
  unfold lookupHandler
  rw [handlers, List.find?_eq_bind_findIdx?_getElem?]
  unfold servedBy at unclaimed
  rw [← map_window host, List.findIdx?_map] at unclaimed
  exact congrArg
    (Option.bind · fun index => (registeredHandlers host)[index]?)
    unclaimed

/-- The accesses to other ports leave it alone. -/
theorem view_of_apart {β : Type} {view : Machine → β} {indices : List Nat}
    (spared : SparedBy indices view)
    (apart : ∀ index ∈ indices, servedBy access.port ≠ some index)
    (accessed : portAccess host machine access = .ok (data, next)) :
    view next = view machine := by
  cases served : servedBy access.port with
  | none => rw [portAccess_of_unclaimed served accessed]
  | some other =>
      have elsewhere : other ∉ indices := fun mem => apart other mem served
      have found := @lookupDevice_of_servedBy host _ _ served
      cases placed : (registeredHandlers host)[other]? with
      | none =>
          rw [placed] at found
          have missing :
              (windows.map Prod.fst)[other]? = none := by
            rw [← map_window host, List.map_map, List.getElem?_map, placed]
            rfl
          have inside : other < windows.length :=
            (List.findIdx?_eq_some_iff_getElem.mp served).1
          rw [List.getElem?_eq_none_iff, List.length_map] at missing
          omega
      | some handler =>
          rw [placed] at found
          rw [portAccess_of_lookup found] at accessed
          exact spared.spares elsewhere placed accessed

/-- The handler that is found serves the access from its part. -/
theorem portAccess_onPart {τ : Type} {part : Part Machine τ}
    {handler : IoHandler τ} {index : Nat}
    (served : servedBy access.port = some index)
    (placed : (registeredHandlers host)[index]? =
      some (handler.onPart part)) :
    portAccess host machine access = (do
      let (data, after) ← handler.serve (part.get machine) access
      pure (data, part.set after machine)) := by
  have found := @lookupDevice_of_servedBy host _ _ served
  rw [placed] at found
  rw [portAccess_of_lookup found, serve_onPart]

/-- The other steps change the video devices, the keyboard controller or the
RAM. -/
theorem view_of_offPorts {β : Type} {view : Machine → β}
    {step : DeviceStep}
    (video : ∀ machine after,
      view { machine with video := after } = view machine)
    (kbd : ∀ machine after,
      view { machine with kbd := after } = view machine)
    (lowMem : ∀ machine after,
      view { machine with lowMem := after } = view machine)
    (stepped : deviceStep machine step = .ok (response, next))
    (off : step.OffPorts) : view next = view machine := by
  cases step with
  | port => cases off
  | write address len pData =>
      obtain ⟨after, -, built⟩ := Outcome.bind_eq_ok_iff.mp stepped
      cases built
      exact video machine after.2
  | read address len =>
      obtain ⟨after, -, built⟩ := Outcome.bind_eq_ok_iff.mp stepped
      cases built
      exact video machine after.2
  | key sc bIsPressed =>
      cases stepped
      exact kbd machine _
  | ram after =>
      cases stepped
      exact lowMem machine after

end Ports

/-! ## Devices with one handler -/

/-- A handler at its place in the table, with a part of the machine that is its
own. -/
structure Slot (τ : Type) where
  index : Nat
  part : LawfulPart Machine τ
  handler : Host → IoHandler τ
  placed : ∀ host, (registeredHandlers host)[index]? =
    some ((handler host).onPart part)
  spared : SparedBy [index] part.get
  offPorts : ∀ {machine step response next},
    deviceStep machine step = .ok (response, next) →
      DeviceStep.OffPorts step → part.get next = part.get machine

namespace Slot

variable {τ : Type} (slot : Slot τ)

/-- The accesses at the ports of the handler. -/
def takes : DeviceStep → Option (Host × IoAccess)
  | .port host access =>
      if servedBy access.port = some slot.index then some (host, access)
      else none
  | _ => none

theorem takes_port (host : Host) (access : IoAccess) :
    slot.takes (.port host access) =
      if servedBy access.port = some slot.index then some (host, access)
      else none := rfl

theorem takes_eq_some_iff {step : DeviceStep} {own : Host × IoAccess} :
    slot.takes step = some own ↔
      step = .port own.1 own.2 ∧
        servedBy own.2.port = some slot.index := by
  cases step with
  | port host access =>
      rw [takes_port]
      by_cases served : servedBy access.port = some slot.index
      · rw [if_pos served]
        constructor
        · intro same
          cases same
          exact ⟨rfl, served⟩
        · intro both
          cases both.1
          rfl
      · rw [if_neg served]
        refine iff_of_false (fun none => by cases none) ?_
        intro both
        cases both.1
        exact served both.2
  | write => exact iff_of_false (fun none => by cases none) (by simp)
  | read => exact iff_of_false (fun none => by cases none) (by simp)
  | key => exact iff_of_false (fun none => by cases none) (by simp)
  | ram => exact iff_of_false (fun none => by cases none) (by simp)

section Fields

variable {machine next : Machine} {step : DeviceStep}
variable {own : Host × IoAccess} {response : Vga.VideoResponse}

theorem serves (taken : slot.takes step = some own) :
    deviceStep machine step = (do
      let (data, after) ←
        handlerCall slot.handler (slot.part.get machine) own
      pure (.data data, slot.part.set after machine)) := by
  obtain ⟨rfl, served⟩ := slot.takes_eq_some_iff.mp taken
  rw [deviceStep_port, portAccess_onPart served (slot.placed own.1)]
  simp only [bind_assoc, pure_bind]
  rfl

theorem spares (apart : slot.takes step = none)
    (stepped : deviceStep machine step = .ok (response, next)) :
    slot.part.get next = slot.part.get machine := by
  cases step with
  | port host access =>
      obtain ⟨data, accessed, -⟩ := deviceStep_port_eq_ok_iff.mp stepped
      refine view_of_apart slot.spared ?_ accessed
      intro index mem served
      rw [List.mem_singleton.mp mem] at served
      rw [slot.takes_port, if_pos served] at apart
      cases apart
  | write => exact slot.offPorts stepped trivial
  | read => exact slot.offPorts stepped trivial
  | key => exact slot.offPorts stepped trivial
  | ram => exact slot.offPorts stepped trivial

end Fields

/-- The device in the machine. -/
def component : Component deviceStep (handlerCall slot.handler) where
  get := slot.part.get
  set := slot.part.set
  takes := slot.takes
  shows := .data
  get_set := slot.part.get_set
  serves := slot.serves
  spares := slot.spares

end Slot

end Kvmulate.Devices
