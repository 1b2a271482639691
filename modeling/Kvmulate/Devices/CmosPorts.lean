import Kvmulate.Cmos.Registers
import Kvmulate.Devices.Registered

/-!
# The ports that reach the CMOS

The mask of its handler decodes only the low byte of the port.
-/

namespace Kvmulate.Devices

open DeviceLib Kvmulate.Io

/-! ## Who changes the CMOS -/

section Frame

variable {host : Host} {machine next : Machine} {access : IoAccess}
variable {data : IoData} {port : Uint16} {val : Uint8}

/-- The other handlers work on other parts of the machine. -/
theorem otherHandlers_spare (host : Host) :
    ∀ handler ∈ otherHandlers host, handler.Spares Machine.cmos := by
  intro handler mem
  unfold otherHandlers parportHandlers serportHandlers at mem
  simp only [List.map_cons, List.map_nil, List.cons_append,
    List.nil_append, List.mem_cons, List.not_mem_nil, or_false] at mem
  rcases mem with rfl | rfl | rfl | rfl | rfl | rfl | rfl | rfl | rfl |
    rfl | rfl | rfl | rfl | rfl | rfl | rfl | rfl | rfl | rfl | rfl
  all_goals exact spares_onPart fun _ _ => rfl

/-- Where the CMOS does not decode the port, another handler is found, if
any. -/
theorem lookup_not_cmos {handler : IoHandler Machine}
    (apart : port &&& 0xFE ≠ 0x70)
    (found : lookupDevice host port = some handler) :
    handler ∈ otherHandlers host := by
  have rejected : (cmosOfDevices host).decodes port = false :=
    decide_eq_false apart
  unfold lookupDevice registeredHandlers at found
  rw [List.find?_cons, rejected] at found
  exact List.mem_of_find?_eq_some found

theorem lookup_cmos (decoded : port &&& 0xFE = 0x70) :
    lookupDevice host port = some (cmosOfDevices host) := by
  have accepted : (cmosOfDevices host).decodes port = true :=
    decide_eq_true decoded
  unfold lookupDevice registeredHandlers
  rw [List.find?_cons, accepted]

theorem portAccess_outb_cmos (decoded : port &&& 0xFE = 0x70) :
    portAccess host machine (.outb port val) = (do
      let ctx ← Cmos.cmosOutb machine.cmos (port - 0x70) val
      pure (.none, machine.withCmos ctx)) := by
  have found : lookupDevice host (IoAccess.outb port val).port = _ :=
    lookup_cmos decoded
  rw [portAccess_of_lookup found]
  refine (serve_onPart cmosPart.toPart _ machine _).trans ?_
  simp only [IoHandler.serve, cmosHandler, callOut, bind_assoc, pure_bind]
  rfl

theorem portAccess_inb_cmos (decoded : port &&& 0xFE = 0x70) :
    portAccess host machine (.inb port) = (do
      let (val, ctx) ←
        Cmos.cmosInb machine.cmos machine.sys host.time.toTm (port - 0x70)
      pure (.byte val, machine.withCmos ctx)) := by
  have found : lookupDevice host (IoAccess.inb port).port = _ :=
    lookup_cmos decoded
  rw [portAccess_of_lookup found]
  refine (serve_onPart cmosPart.toPart _ machine _).trans ?_
  simp only [IoHandler.serve, cmosHandler, callIn, bind_assoc, pure_bind]
  rfl

/-- The index port keeps all bits but that of the NMI. -/
theorem portAccess_index (host : Host) (machine : Machine) (val : Uint8) :
    portAccess host machine (.outb 0x70 val) =
      .ok (.none,
        machine.withCmos (machine.cmos.select (val &&& 0x7F))) := by
  have bits : ~~~(0x80 : Uint8) = 0x7F := by decide
  have distance : (0x70 : Uint16) - 0x70 = 0 := by decide
  have written :
      Cmos.cmosOutb machine.cmos 0 val =
        .ok (machine.cmos.select (val &&& 0x7F)) := by
    rw [← bits]
    rfl
  rw [portAccess_outb_cmos (by decide), distance, written]
  rfl

/-- Only bytes are served at a port of the CMOS. -/
theorem access_cmos_of_ok (decoded : access.port &&& 0xFE = 0x70)
    (accessed : portAccess host machine access = .ok (data, next)) :
    (∃ port val, access = .outb port val) ∨ ∃ port, access = .inb port := by
  rw [portAccess_of_lookup (lookup_cmos decoded)] at accessed
  rcases serve_onPart_eq_ok_iff.mp accessed with ⟨after, served, -⟩
  cases access with
  | outb port val => exact Or.inl ⟨port, val, rfl⟩
  | inb port => exact Or.inr ⟨port, rfl⟩
  | outw port val => cases served
  | outl port val => cases served
  | inw port => cases served
  | inl port => cases served

/-- An access that the CMOS does not decode leaves its context alone. -/
theorem cmos_of_apart (apart : access.port &&& 0xFE ≠ 0x70)
    (accessed : portAccess host machine access = .ok (data, next)) :
    next.cmos = machine.cmos := by
  rcases exists_registered host with ⟨table, built, handlers⟩
  unfold portAccess at accessed
  rw [built] at accessed
  refine @ioAccess_preserves _ table access machine next data
    (fun after => after.cmos = machine.cmos) ?_ rfl accessed
  intro handler found data after served
  have looked : lookupDevice host access.port = some handler := by
    unfold lookupHandler at found
    rw [handlers] at found
    exact found
  exact otherHandlers_spare host handler (lookup_not_cmos apart looked)
    served

/-- What the accesses of its handler preserve, every port access does. -/
theorem settled_portAccess (settled : Cmos.Settled machine.cmos)
    (accessed : portAccess host machine access = .ok (data, next)) :
    Cmos.Settled next.cmos := by
  by_cases decoded : access.port &&& 0xFE = 0x70
  · rcases access_cmos_of_ok decoded accessed with
      ⟨port, val, same⟩ | ⟨port, same⟩
    · cases same
      change port &&& 0xFE = 0x70 at decoded
      rw [portAccess_outb_cmos decoded] at accessed
      rcases Outcome.bind_eq_ok_iff.mp accessed with
        ⟨ctx, written, built⟩
      cases built
      exact Cmos.settled_cmosOutb settled written
    · cases same
      change port &&& 0xFE = 0x70 at decoded
      rw [portAccess_inb_cmos decoded] at accessed
      rcases Outcome.bind_eq_ok_iff.mp accessed with
        ⟨⟨val, ctx⟩, read, built⟩
      cases built
      change Cmos.Settled ctx
      rw [Cmos.cmosInb_state settled read]
      exact settled
  · rw [cmos_of_apart decoded accessed]
    exact settled

end Frame

/-! ## Runs -/

section Runs

variable {machine next : Machine} {step : DeviceStep}
variable {response : Vga.VideoResponse}

theorem settled_deviceStep (settled : Cmos.Settled machine.cmos)
    (stepped : deviceStep machine step = .ok (response, next)) :
    Cmos.Settled next.cmos := by
  cases step with
  | port host access =>
      rcases Outcome.bind_eq_ok_iff.mp stepped with
        ⟨⟨data, after⟩, accessed, built⟩
      cases built
      exact settled_portAccess settled accessed
  | write address len pData =>
      rcases Outcome.bind_eq_ok_iff.mp stepped with ⟨video, -, built⟩
      cases built
      exact settled
  | read address len =>
      rcases Outcome.bind_eq_ok_iff.mp stepped with ⟨video, -, built⟩
      cases built
      exact settled
  | key sc bIsPressed =>
      cases stepped
      exact settled
  | ram lowMem =>
      cases stepped
      exact settled

theorem settled_start {around : Surroundings}
    (started : Machine.start around = .ok machine) :
    Cmos.Settled machine.cmos := by
  rcases Outcome.bind_eq_ok_iff.mp started with ⟨video, -, built⟩
  cases built
  exact Cmos.settled_init

end Runs

/-! ## Confinement -/

/-- No field of the context changes, and no data of the CMOS is delivered. -/
def LeavesCmos (host : Host) (machine : Machine) (access : IoAccess) :
    Prop :=
  ∀ data next, portAccess host machine access = .ok (data, next) →
    next.cmos = machine.cmos ∧
      (data ≠ .none →
        lookupDevice host access.port ≠ some (cmosOfDevices host))

def OwnPort (port : Uint16) : Prop := port = 0x70 ∨ port = 0x71

/-- The accesses of bytes outside the two ports leave the CMOS alone. -/
def CmosConfined (machine : Machine) : DeviceStep → Prop
  | .port host (.outb port val) =>
      ¬ OwnPort port → LeavesCmos host machine (.outb port val)
  | .port host (.inb port) =>
      ¬ OwnPort port → LeavesCmos host machine (.inb port)
  | _ => True

/-- A port whose low byte is that of one of the two ports. -/
def Alias (port : Uint16) : Prop :=
  port &&& 0xFE = 0x70 ∧ ¬ OwnPort port

/-- At such a port, a write finds no register selected that it would change,
and a read none that has a value. -/
def AliasInert (machine : Machine) : DeviceStep → Prop
  | .port _ (.outb port val) =>
      Alias port →
        (machine.cmos.indexreg = 0x0B → machine.cmos.rtc.statusC = val) ∧
          (machine.cmos.indexreg = 0x0F → machine.cmos.resetcode = val)
  | .port _ (.inb port) =>
      Alias port → machine.cmos.indexreg ∉ Cmos.readableRegs
  | _ => True

section Confinement

variable {host : Host} {machine : Machine} {port : Uint16} {val : Uint8}

/-- The handler takes the distance for the data port. -/
theorem alias_distance (elsewhere : Alias port) :
    port - 0x70 ≠ 0 ∧ port - 0x70 ≠ 0x70 := by
  rcases elsewhere with ⟨decoded, notOwn⟩
  constructor
  · intro index
    apply notOwn
    exact Or.inl (by bv_omega)
  · intro absolute
    have port : port = 0xE0 := by
      bv_omega
    rw [port] at decoded
    exact absurd decoded (by decide)

theorem leaves_of_apart {access : IoAccess}
    (apart : access.port &&& 0xFE ≠ 0x70) :
    LeavesCmos host machine access := by
  intro data next accessed
  refine ⟨cmos_of_apart apart accessed, fun _ found => ?_⟩
  have decoded : (cmosOfDevices host).decodes access.port = true :=
    @List.find?_some _ _ (cmosOfDevices host) _ found
  exact apart (of_decide_eq_true decoded)

theorem leaves_outb_iff (settled : Cmos.Settled machine.cmos)
    (elsewhere : Alias port) :
    LeavesCmos host machine (.outb port val) ↔
      (machine.cmos.indexreg = 0x0B → machine.cmos.rtc.statusC = val) ∧
        (machine.cmos.indexreg = 0x0F → machine.cmos.resetcode = val) := by
  have data := (alias_distance elsewhere).1
  have served :=
    @portAccess_outb_cmos host machine port val elsewhere.1
  constructor
  · intro leaves
    constructor
    · intro selected
      rw [Cmos.cmosOutb_regB data selected] at served
      have same := (leaves _ _ served).1
      exact (congrArg (fun ctx => ctx.rtc.statusC) same).symm
    · intro selected
      rw [Cmos.cmosOutb_reset data selected] at served
      have same := (leaves _ _ served).1
      exact (congrArg (fun ctx => ctx.resetcode) same).symm
  · intro inert result next accessed
    rw [served] at accessed
    rcases Outcome.bind_eq_ok_iff.mp accessed with ⟨ctx, written, built⟩
    cases built
    refine ⟨?_, fun some => absurd rfl some⟩
    change ctx = machine.cmos
    rcases Cmos.cmosOutb_data settled data written with
      ⟨selected, same⟩ | ⟨selected, same⟩ | ⟨-, -, same⟩
    · rw [same, ← inert.1 selected]
      rfl
    · rw [same, ← inert.2 selected]
    · exact same

theorem leaves_inb_iff (settled : Cmos.Settled machine.cmos)
    (elsewhere : Alias port) :
    LeavesCmos host machine (.inb port) ↔
      machine.cmos.indexreg ∉ Cmos.readableRegs := by
  have data := (alias_distance elsewhere).2
  have served := @portAccess_inb_cmos host machine port elsewhere.1
  rcases Cmos.cmosInb_cases settled machine.sys host.time.toTm data with
    ⟨readable, val, read⟩ | ⟨unreadable, stopped⟩
  · refine iff_of_false ?_ (not_not_intro readable)
    intro leaves
    rw [read] at served
    exact (leaves _ _ served).2 IoData.noConfusion
      (lookup_cmos elsewhere.1)
  · refine iff_of_true ?_ unreadable
    intro result next accessed
    rw [served, stopped] at accessed
    cases accessed

/-- A step keeps out of the CMOS exactly when no alias of its ports has an
effect. -/
theorem cmosConfined_iff_inert {step : DeviceStep}
    (settled : Cmos.Settled machine.cmos) :
    CmosConfined machine step ↔ AliasInert machine step := by
  cases step with
  | port host access =>
      cases access with
      | outb port val =>
          by_cases decoded : port &&& 0xFE = 0x70
          · constructor
            · intro confined elsewhere
              exact (leaves_outb_iff settled elsewhere).mp
                (confined elsewhere.2)
            · intro inert notOwn
              exact (leaves_outb_iff settled ⟨decoded, notOwn⟩).mpr
                (inert ⟨decoded, notOwn⟩)
          · exact iff_of_true (fun _ => leaves_of_apart decoded)
              (fun elsewhere => absurd elsewhere.1 decoded)
      | inb port =>
          by_cases decoded : port &&& 0xFE = 0x70
          · constructor
            · intro confined elsewhere
              exact (leaves_inb_iff settled elsewhere).mp
                (confined elsewhere.2)
            · intro inert notOwn
              exact (leaves_inb_iff settled ⟨decoded, notOwn⟩).mpr
                (inert ⟨decoded, notOwn⟩)
          · exact iff_of_true (fun _ => leaves_of_apart decoded)
              (fun elsewhere => absurd elsewhere.1 decoded)
      | outw port val => exact Iff.rfl
      | outl port val => exact Iff.rfl
      | inw port => exact Iff.rfl
      | inl port => exact Iff.rfl
  | write address len pData => exact Iff.rfl
  | read address len => exact Iff.rfl
  | key sc bIsPressed => exact Iff.rfl
  | ram lowMem => exact Iff.rfl

end Confinement

/-- In every run of the machine, the CMOS is touched through its own ports only
exactly when every access to one of their aliases is inert. -/
theorem cmos_confined_iff {around : Surroundings} {initial : Machine}
    (started : Machine.start around = .ok initial)
    (steps : List DeviceStep) :
    StepsMeet deviceStep CmosConfined initial steps ↔
      StepsMeet deviceStep AliasInert initial steps :=
  stepsMeet_congr
    (fun settled stepped => settled_deviceStep settled stepped)
    (fun settled => cmosConfined_iff_inert settled)
    (settled_start started)

/-- A guest that reads the status of the hard disk keeps out of the CMOS. -/
theorem cmos_confined_status :
    ∃ initial, Machine.start bare = .ok initial ∧
      StepsMeet deviceStep CmosConfined initial
        [.port Host.atNoon (.inb 0x1F7)] := by
  rcases exists_start_bare with ⟨initial, started⟩
  refine ⟨initial, started, (cmos_confined_iff started _).mpr ⟨?_, ?_⟩⟩
  · intro elsewhere
    exact absurd elsewhere.1 (by decide)
  · exact fun _ _ _ => trivial

/-- With the reset code selected, a probe of port 0x171 overwrites it. -/
theorem cmos_not_always_confined :
    ∃ initial, Machine.start bare = .ok initial ∧
      ¬ StepsMeet deviceStep CmosConfined initial
        [.port Host.atNoon (.outb 0x70 0x0F),
          .port Host.atNoon (.outb 0x171 0x05)] := by
  rcases exists_start_bare with ⟨initial, started⟩
  refine ⟨initial, started, fun confined => ?_⟩
  have cleared : initial.cmos = Cmos.x86CmosInit := by
    rcases Outcome.bind_eq_ok_iff.mp started with ⟨video, -, built⟩
    cases built
    rfl
  have selected :
      deviceStep initial (.port Host.atNoon (.outb 0x70 0x0F)) =
        .ok (.data .none,
          initial.withCmos (Cmos.x86CmosInit.select 0x0F)) := by
    refine Outcome.bind_eq_ok_iff.mpr
      ⟨_, portAccess_index Host.atNoon initial 0x0F, ?_⟩
    rw [cleared]
    rfl
  have settled := Cmos.settled_init.select 0x0F
  have inert :=
    (@cmosConfined_iff_inert _ (.port Host.atNoon (.outb 0x171 0x05))
      settled).mp (confined.2 _ _ selected).1
  have elsewhere : Alias 0x171 := by
    unfold Alias OwnPort
    decide
  have stored : Cmos.x86CmosInit.resetcode = 0x05 :=
    (inert elsewhere).2 rfl
  exact absurd stored (by decide)

end Kvmulate.Devices
