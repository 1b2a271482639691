import Kvmulate.Devices.Tables
import Kvmulate.Lib.Decomposition

/-!
# The machine as the product of its devices

Every step is for one of the devices, and the devices share nothing.  What the
machine does is what each of them does, in whatever order their steps come.
-/

namespace Kvmulate.Devices

open DeviceLib Kvmulate.Io Kvmulate.System

namespace Device

def State : Device → Type
  | .cmos => CmosSystem
  | .a20 => A20En
  | .para => Qemu.Ctx
  | .kbd => Keyboard.KbdRegs
  | .video => Vga.Video
  | .transfers => Transfers
  | .ata => Ata.AtaController
  | .others => Unit

def Input : Device → Type
  | .cmos => Host × IoAccess
  | .a20 => Host × IoAccess
  | .para => Host × IoAccess
  | .kbd => (Host × IoAccess) ⊕ (Uint8 × Bool)
  | .video => (Host × IoAccess) ⊕ Vga.VideoAccess
  | .transfers => (Host × IoAccess) ⊕ LowMem
  | .ata => Host × IoAccess
  | .others => (Host × IoAccess) ⊕ Empty

def Response : Device → Type
  | .cmos => IoData
  | .a20 => IoData
  | .para => IoData
  | .kbd => Vga.VideoResponse
  | .video => Vga.VideoResponse
  | .transfers => Vga.VideoResponse
  | .ata => IoData
  | .others => Vga.VideoResponse

/-- The device on its own. -/
def call : ∀ device : Device,
    Call device.State device.Input device.Response
  | .cmos => handlerCall cmosHandler
  | .a20 => handlerCall fun _ => ps2PosHandler
  | .para => handlerCall fun _ => qemuparaHandler
  | .kbd => kbdDevice.call
  | .video => videoDevice.call
  | .transfers => transfersDevice.call
  | .ata => handlerCall pioHandler
  | .others => othersDevice.call

def component : ∀ device : Device, Component deviceStep device.call
  | .cmos => cmosSlot.component
  | .a20 => a20Slot.component
  | .para => paraSlot.component
  | .kbd => kbdDevice.component
  | .video => videoDevice.component
  | .transfers => transfersDevice.component
  | .ata => ataSlot.component
  | .others => othersDevice.component

end Device

/-- The device of a slot is that of its place. -/
theorem Slot.isSome_takes {τ : Type} (slot : Slot τ) {name : Device}
    (only : ∀ served, served = some slot.index ↔ deviceOf served = name)
    (off : ∀ step, DeviceStep.OffPorts step → deviceOfStep step ≠ name)
    (step : DeviceStep) :
    (slot.takes step).isSome = true ↔ deviceOfStep step = name := by
  cases step with
  | port host access =>
      rw [slot.takes_port, Option.isSome_ite]
      exact only (servedBy access.port)
  | write address len pData =>
      exact iff_of_false Bool.false_ne_true (off _ trivial)
  | read address len =>
      exact iff_of_false Bool.false_ne_true (off _ trivial)
  | key sc bIsPressed =>
      exact iff_of_false Bool.false_ne_true (off _ trivial)
  | ram lowMem =>
      exact iff_of_false Bool.false_ne_true (off _ trivial)

theorem deviceOfStep_of_offPorts {step : DeviceStep}
    (off : step.OffPorts) :
    deviceOfStep step = .video ∨ deviceOfStep step = .kbd ∨
      deviceOfStep step = .transfers := by
  cases step with
  | port => cases off
  | write => exact .inl rfl
  | read => exact .inl rfl
  | key => exact .inr (.inl rfl)
  | ram => exact .inr (.inr rfl)

theorem device_owned (device : Device) (step : DeviceStep) :
    (device.component.takes step).isSome = true ↔
      deviceOfStep step = device := by
  have off {name : Device} (apart : name ≠ .video ∧ name ≠ .kbd ∧
      name ≠ .transfers) (step : DeviceStep) (off : step.OffPorts) :
        deviceOfStep step ≠ name := by
    rcases deviceOfStep_of_offPorts off with is | is | is
    · exact fun same => apart.1 (same.symm.trans is)
    · exact fun same => apart.2.1 (same.symm.trans is)
    · exact fun same => apart.2.2 (same.symm.trans is)
  have only {index : Nat} {name : Device}
      (found : deviceOf (some index) = name)
      (alone : ∀ other, deviceOf other = name → other = some index)
      (served : Option Nat) :
      served = some index ↔ deviceOf served = name :=
    ⟨fun same => by rw [same]; exact found, alone served⟩
  cases device with
  | cmos =>
      refine cmosSlot.isSome_takes (only rfl ?_) (off (by decide)) step
      intro other is
      unfold deviceOf at is
      split at is
      all_goals first | rfl | cases is
  | a20 =>
      refine a20Slot.isSome_takes (only rfl ?_) (off (by decide)) step
      intro other is
      unfold deviceOf at is
      split at is
      all_goals first | rfl | cases is
  | para =>
      refine paraSlot.isSome_takes (only rfl ?_) (off (by decide)) step
      intro other is
      unfold deviceOf at is
      split at is
      all_goals first | rfl | cases is
  | ata =>
      refine ataSlot.isSome_takes (only rfl ?_) (off (by decide)) step
      intro other is
      unfold deviceOf at is
      split at is
      all_goals first | rfl | cases is
  | kbd => exact kbdDevice.isSome_takes
  | video => exact videoDevice.isSome_takes
  | transfers => exact transfersDevice.isSome_takes
  | others => exact othersDevice.isSome_takes

/-- The devices hold all of the state. -/
theorem device_covers {first second : Machine}
    (same : ∀ device : Device,
      device.component.get first = device.component.get second) :
    first = second := by
  have cmos : cmosPart.get first = cmosPart.get second := same .cmos
  have a20 : first.a20En = second.a20En := same .a20
  have para : first.para = second.para := same .para
  have kbd : first.kbd = second.kbd := same .kbd
  have video : first.video = second.video := same .video
  have transfers : transfersPart.get first = transfersPart.get second :=
    same .transfers
  have ata : first.ata = second.ata := same .ata
  obtain ⟨firstSys, firstCmos, firstA20, firstDma, firstPara, firstKbd,
    firstVideo, firstFdc, firstLowMem, firstAta⟩ := first
  obtain ⟨secondSys, secondCmos, secondA20, secondDma, secondPara,
    secondKbd, secondVideo, secondFdc, secondLowMem, secondAta⟩ := second
  cases cmos
  cases a20
  cases para
  cases kbd
  cases video
  cases transfers
  cases ata
  rfl

/-- The machine is made up of its devices. -/
def machineDevices : Decomposition deviceStep Device where
  Part := Device.State
  PartInput := Device.Input
  PartResponse := Device.Response
  part := Device.call
  component := Device.component
  owner := deviceOfStep
  owned := device_owned
  covers := device_covers

/-! ## Runs of the machine -/

section Runs

variable {machine final : Machine} {given first second : List DeviceStep}
variable {delivered : List Vga.VideoResponse}

/-- The machine runs as its devices do, each over the steps that are for it. -/
theorem run_iff_each_device :
    run deviceStep machine given = .ok (delivered, final) ↔
      delivered.length = given.length ∧
        ∀ device : Device,
          device.component.RunsAlone machine given delivered final :=
  @Decomposition.run_eq_ok_iff_forall _ _ _ _ _ machineDevices _ _ _ _

/-- The device, on its own, returns from all the steps that are for it. -/
def Device.Serves (device : Device) (machine : Machine)
    (given : List DeviceStep) : Prop :=
  ∃ answers after,
    run device.call (device.component.get machine)
        (device.component.inputs given) =
      .ok (answers, after)

/-- The machine returns as long as its devices do. -/
theorem exists_run_iff_serves :
    (∃ delivered final,
        run deviceStep machine given = .ok (delivered, final)) ↔
      ∀ device : Device, device.Serves machine given :=
  @Decomposition.exists_run_iff_forall _ _ _ _ _ machineDevices _ _

theorem exists_run_of_serves (device : Device)
    (own : device.Serves machine given)
    (others : ∀ other, other ≠ device → other.Serves machine given) :
    ∃ delivered final,
      run deviceStep machine given = .ok (delivered, final) := by
  refine exists_run_iff_serves.mpr fun other => ?_
  by_cases same : other = device
  · rw [same]
    exact own
  · exact others other same

theorem Device.serves_of_nil {device : Device}
    (nothing : device.component.inputs given = []) :
    device.Serves machine given := by
  unfold Device.Serves
  rw [nothing]
  exact ⟨[], _, rfl⟩

/-- Steps for one device and a key event stop at no other device. -/
theorem Device.serves_of_key {device other : Device} {sc : Uint8}
    {bIsPressed : Bool}
    (mine : ∀ step ∈ given, deviceOfStep step = device)
    (apart : other ≠ device) :
    other.Serves machine (.key sc bIsPressed :: given) := by
  have spared : ∀ step ∈ given, other.component.takes step = none := by
    intro step mem
    refine @Decomposition.takes_of_ne _ _ _ _ _ machineDevices step other ?_
    rw [show machineDevices.owner step = device from mine step mem]
    exact apart.symm
  have nothing : other.component.inputs given = [] :=
    List.filterMap_eq_nil_iff.mpr spared
  by_cases keyboard : other = .kbd
  · subst keyboard
    have inputs : kbdDevice.component.inputs (.key sc bIsPressed :: given) =
        [.inr (sc, bIsPressed)] :=
      (Component.inputs_cons_of_some rfl).trans (congrArg _ nothing)
    refine ⟨[.data .none],
      Keyboard.kbdInject machine.kbd sc bIsPressed, ?_⟩
    exact (congrArg (run _ _) inputs).trans (run_one rfl)
  · refine Device.serves_of_nil ?_
    have key : other.component.takes (.key sc bIsPressed) = none :=
      @Decomposition.takes_of_ne _ _ _ _ _ machineDevices
        (.key sc bIsPressed) other (Ne.symm keyboard)
    exact (Component.inputs_cons_of_none key).trans nothing

/-- The order between the steps of different devices does not matter: where
two schedules give each device the same steps in the same order, one of them
returns if the other does, in the same state, and each device has given the
same responses. -/
theorem schedules_agree
    (same : machineDevices.SameInputs first second)
    (ran : run deviceStep machine first = .ok (delivered, final)) :
    ∃ others, run deviceStep machine second = .ok (others, final) ∧
      machineDevices.SameResponses first second delivered others :=
  Decomposition.run_of_sameInputs same ran

/-- A key event before and behind a store of the guest to its gate for
A20. -/
theorem schedules_agree_key :
    ∃ machine final others, Machine.start bare = .ok machine ∧
      run deviceStep machine
          [.port Host.atNoon (.outb 0x92 2), .key 0x1E true] =
        .ok (others, final) ∧
      machineDevices.SameResponses
        [.key 0x1E true, .port Host.atNoon (.outb 0x92 2)]
        [.port Host.atNoon (.outb 0x92 2), .key 0x1E true]
        [.data .none, .data .none] others := by
  obtain ⟨machine, start⟩ := exists_start_bare
  have pressed : deviceStep machine (.key 0x1E true) =
      .ok (.data .none,
        { machine with
          kbd := Keyboard.kbdInject machine.kbd 0x1E true }) := rfl
  have opened := (@Component.serves_eq_ok_iff _ _ _ _ _ _ _ _
    a20Slot.component
    { machine with kbd := Keyboard.kbdInject machine.kbd 0x1E true } _
    (.port Host.atNoon (.outb 0x92 2)) (Host.atNoon, .outb 0x92 2)
    (.data .none) rfl).mpr ⟨_, 1, rfl, rfl, rfl⟩
  obtain ⟨others, ran, same⟩ := schedules_agree
    (Decomposition.sameInputs_swap [] [] (by decide))
    (run_cons pressed (run_one opened))
  exact ⟨machine, _, others, start, ran, same⟩

end Runs

end Kvmulate.Devices
