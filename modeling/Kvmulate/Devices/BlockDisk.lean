import Kvmulate.Ata.Transfers
import Kvmulate.Devices.DiskReads
import Kvmulate.Devices.Product

/-!
# The disk of the machine

The transfers of a driver, programmed, started and drained while all other
devices are used, are answered like the requests of a block device.
-/

namespace Kvmulate.Devices

open DeviceLib Kvmulate.Io Kvmulate.System

/-- The access is none of the 32-bit ones, for which the disk controller has no
entry points. -/
def NarrowDisk (step : DeviceStep) : Prop :=
  deviceOfStep step = .ata → (ataAlone.takes step).isSome = true

section Disk

variable {machine final : Machine} {given : List DeviceStep}
variable {delivered : List Vga.VideoResponse}

/-- Accesses that the disk controller returns from, it returns from behind its
ports. -/
theorem ata_serves {responses : List Ata.Response}
    {cont : Ata.AtaController}
    (narrow : ∀ step ∈ given, NarrowDisk step)
    (ran : run Ata.access machine.ata (ataAlone.inputs given) =
      .ok (responses, cont)) :
    Device.ata.Serves machine given := by
  have inputs : ataAlone.inputs given =
      pioComponent.inputs (ataSlot.component.inputs given) :=
    Component.inputs_trans _ _ given
  have taken : ∀ input ∈ ataSlot.component.inputs given,
      (pioComponent.takes input).isSome = true := by
    intro input mem
    obtain ⟨step, among, took⟩ := List.mem_filterMap.mp mem
    have mine : deviceOfStep step = .ata :=
      (device_owned .ata step).mp (Option.isSome_iff_exists.mpr ⟨_, took⟩)
    have both : ataAlone.takes step = pioComponent.takes input := by
      change (ataSlot.component.takes step).bind pioComponent.takes = _
      rw [took, Option.bind_some]
    rw [← both]
    exact narrow step among mine
  refine (Component.exists_run_iff taken).mpr ⟨responses, cont, ?_⟩
  rw [← inputs]
  exact ran

/-- The words and the disk of the machine are those of the controller. -/
theorem words_of_run {responses : List Ata.Response}
    {cont : Ata.AtaController}
    (ran : run deviceStep machine given = .ok (delivered, final))
    (ranAta : run Ata.access machine.ata (ataAlone.inputs given) =
      .ok (responses, cont)) :
    diskWords given delivered = Ata.dataWords responses ∧
      final.ata = cont := by
  obtain ⟨answers, alone, shown⟩ :=
    @Component.runsAlone_of_run _ _ _ _ _ _ _ _ ataAlone _ _ _ _ ran
  have same : run Ata.access machine.ata (ataAlone.inputs given) =
      .ok (answers, final.ata) := alone
  rw [ranAta] at same
  obtain ⟨rfl, rfl⟩ := Prod.mk.inj (Except.ok.inj same)
  unfold diskWords
  rw [← shown, filterMap_wordOf]
  exact ⟨rfl, rfl⟩

/-- In every reachable machine, a driver that programs, starts and drains its
transfers finds a block device, however the accesses to the disk are
interleaved with steps for the other devices; the machine stops only if one of
those does. -/
theorem disk_refines_blockDevice {around : Surroundings} {first : Machine}
    {before : List DeviceStep} {earlier : List Vga.VideoResponse}
    {transfers : List Ata.Transfer}
    (start : Machine.start around = .ok first)
    (reached : run deviceStep first before = .ok (earlier, machine))
    (selected : machine.ata.pCurrDev = .master)
    (accesses : ataAlone.inputs given =
      transfers.flatMap Ata.Transfer.inputs)
    (narrow : ∀ step ∈ given, NarrowDisk step)
    (others : ∀ device : Device, device ≠ .ata → device.Serves machine given) :
    ∃ delivered final,
      run deviceStep machine given = .ok (delivered, final) ∧
        (diskWords given delivered, Ata.diskOf final.ata) =
          BlockRequest.serveAll (Ata.diskOf machine.ata)
            (transfers.map Ata.Transfer.request) ∧
        (transfers ≠ [] → ¬ final.ata.master.drq) := by
  obtain ⟨history, tracks⟩ := tracked_of_run (tracked_start start) reached
  obtain ⟨responses, ⟨cont, later⟩, answers, clear⟩ :=
    @Ata.run_transfers _ _ transfers tracks selected
  have ranAta := run_of_observed answers.ran
  rw [← accesses] at ranAta
  obtain ⟨delivered, final, ran⟩ :=
    exists_run_of_serves .ata (ata_serves narrow ranAta) others
  obtain ⟨words, same⟩ := words_of_run ran ranAta
  refine ⟨delivered, final, ran, ?_, ?_⟩
  · rw [words, same]
    exact Prod.ext answers.words answers.disk
  · rw [same]
    exact clear

/-! The accesses of a driver at the ports of the disk. -/

def pioAccess : Ata.Access → IoAccess
  | .outb address val => .outb (address + 0x1F0) val
  | .outw address val => .outw (address + 0x1F0) val
  | .inb address => .inb (address + 0x1F0)
  | .inw address => .inw (address + 0x1F0)

def pioStep (input : HostCalls × Ata.Access) : DeviceStep :=
  .port ⟨Cmos.noon2026, input.1⟩ (pioAccess input.2)

def addressOf : Ata.Access → Uint16
  | .outb address _ => address
  | .outw address _ => address
  | .inb address => address
  | .inw address => address

theorem servedBy_pio :
    ∀ address : Fin 8,
      servedBy (BitVec.ofNat 16 address.val + 0x1F0) = some 20 := by
  decide

theorem port_pioAccess (access : Ata.Access) :
    (pioAccess access).port = addressOf access + 0x1F0 := by
  cases access with
  | outb => rfl
  | outw => rfl
  | inb => rfl
  | inw => rfl

theorem takes_pioStep {input : HostCalls × Ata.Access}
    (task : (addressOf input.2).toNat < 8) :
    ataAlone.takes (pioStep input) = some input := by
  obtain ⟨calls, access⟩ := input
  have served : servedBy (pioAccess access).port = some 20 := by
    have found := servedBy_pio ⟨(addressOf access).toNat, task⟩
    rw [BitVec.ofNat_toNat, BitVec.setWidth_eq] at found
    rw [port_pioAccess]
    exact found
  refine (ataAlone_takes_port served).trans ?_
  cases access with
  | outb => simp only [pioAccess, pioInput, BitVec.add_sub_cancel]
  | outw => simp only [pioAccess, pioInput, BitVec.add_sub_cancel]
  | inb => simp only [pioAccess, pioInput, BitVec.add_sub_cancel]
  | inw => simp only [pioAccess, pioInput, BitVec.add_sub_cancel]

theorem inputs_pioSteps {inputs : List (HostCalls × Ata.Access)}
    (task : ∀ input ∈ inputs, (addressOf input.2).toNat < 8) :
    ataAlone.inputs (inputs.map pioStep) = inputs := by
  unfold Component.inputs
  rw [List.filterMap_map]
  refine (List.filterMap_congr fun input mem => ?_).trans
    List.filterMap_some
  exact takes_pioStep (task input mem)

theorem addressOf_transfer (transfer : Ata.Transfer) :
    ∀ input ∈ transfer.inputs, (addressOf input.2).toNat < 8 := by
  have register (write : Ata.TaskWrite) :
      (addressOf write.input.2).toNat < 8 := by
    have below : ∀ target : Ata.TaskReg, target.port.toNat < 8 := by
      intro target
      cases target <;> decide
    exact below write.target
  have setup (writes : List Ata.TaskWrite) :
      ∀ input ∈ writes.map Ata.TaskWrite.input,
        (addressOf input.2).toNat < 8 := by
    intro input mem
    obtain ⟨write, -, rfl⟩ := List.mem_map.mp mem
    exact register write
  cases transfer with
  | read programmed =>
      intro input mem
      rcases List.mem_append.mp mem with front | back
      · exact setup _ input front
      · rcases List.mem_cons.mp back with rfl | word
        · exact (by decide : 7 < 8)
        · rw [List.eq_of_mem_replicate word]
          exact (by decide : 0 < 8)
  | write programmed words nonzero length =>
      intro input mem
      rcases List.mem_append.mp mem with front | back
      · exact setup _ input front
      · rcases List.mem_cons.mp back with rfl | word
        · exact (by decide : 7 < 8)
        · obtain ⟨val, -, rfl⟩ := List.mem_map.mp word
          exact (by decide : 0 < 8)

theorem deviceOfStep_pioStep {input : HostCalls × Ata.Access}
    (task : (addressOf input.2).toNat < 8) :
    deviceOfStep (pioStep input) = .ata := by
  have took : (ataAlone.takes (pioStep input)).isSome = true := by
    rw [takes_pioStep task]
    rfl
  refine (device_owned .ata _).mp (Option.isSome_iff_ne_none.mpr ?_)
  intro none
  change ((ataSlot.component.takes (pioStep input)).bind
    pioComponent.takes).isSome = true at took
  have apart : ataSlot.component.takes (pioStep input) = Option.none := none
  rw [apart] at took
  cases took

/-- A key is pressed while a sector is read. -/
theorem disk_refines_blockDevice_key :
    let transfer := Ata.Transfer.read (Ata.program 5 1)
    let given := .key 0x1E true :: transfer.inputs.map pioStep
    ∃ machine delivered final, Machine.start bare = .ok machine ∧
      run deviceStep machine given = .ok (delivered, final) ∧
        (diskWords given delivered, Ata.diskOf final.ata) =
          BlockRequest.serveAll (Ata.diskOf machine.ata)
            [transfer.request] ∧
        ¬ final.ata.master.drq := by
  intro transfer given
  obtain ⟨machine, start⟩ := exists_start_bare
  have ata := (started_of_start start).ata
  have selected : machine.ata.pCurrDev = .master := by
    rw [ata]
    rfl
  have task := addressOf_transfer transfer
  have accesses : ataAlone.inputs given =
      [transfer].flatMap Ata.Transfer.inputs := by
    rw [List.flatMap_singleton]
    exact (List.filterMap_cons_none rfl).trans (inputs_pioSteps task)
  have mine : ∀ step ∈ transfer.inputs.map pioStep,
      deviceOfStep step = .ata := by
    intro step mem
    obtain ⟨input, among, rfl⟩ := List.mem_map.mp mem
    exact deviceOfStep_pioStep (task input among)
  have narrow : ∀ step ∈ given, NarrowDisk step := by
    intro step mem mine
    rcases List.mem_cons.mp mem with rfl | access
    · cases mine
    · obtain ⟨input, among, rfl⟩ := List.mem_map.mp access
      rw [takes_pioStep (task input among)]
      rfl
  have others : ∀ device : Device, device ≠ .ata →
      device.Serves machine given :=
    fun device other => Device.serves_of_key mine other
  have nothing : run deviceStep machine [] = .ok ([], machine) := rfl
  obtain ⟨delivered, final, ran, same, clear⟩ :=
    disk_refines_blockDevice start nothing selected accesses narrow others
  exact ⟨machine, delivered, final, start, ran, same,
    clear (List.cons_ne_nil _ _)⟩

end Disk

end Kvmulate.Devices
