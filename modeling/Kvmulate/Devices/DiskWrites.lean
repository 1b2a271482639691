import Kvmulate.Ata.Atomic
import Kvmulate.Devices.DiskReads

/-!
# Writing the disk through the machine

The words of WRITE SECTORS change the disk as a whole, while all other devices
are used at the same time.
-/

namespace Kvmulate.Devices

open DeviceLib Kvmulate.Io Kvmulate.System

/-- The words that the guest writes to the data port of the disk in a run. -/
def wordsToDisk (given : List DeviceStep) : List Uint16 :=
  Ata.outWords (ataAlone.inputs given)

/-- The step gives the disk no other WRITE SECTORS. -/
def KeepsWrite (machine : Machine) (step : DeviceStep) : Prop :=
  ∀ own, ataAlone.takes step = some own →
    ¬ Ata.WriteCommanded machine.ata own.2

/-- All calls to the file of the disk succeed. -/
def FileSucceeds (step : DeviceStep) : Prop :=
  ∀ own, ataAlone.takes step = some own → own.1 = HostCalls.full

section Writes

variable {around : Surroundings} {first machine next final : Machine}
variable {before later : List DeviceStep}
variable {earlier delivered : List Vga.VideoResponse}
variable {host : Host} {response : Vga.VideoResponse}

theorem full_of_fileSucceeds
    (succeeds : ∀ step ∈ later, FileSucceeds step) :
    ∀ input ∈ ataAlone.inputs later, input.1 = HostCalls.full := by
  intro input mem
  obtain ⟨step, among, taken⟩ := List.mem_filterMap.mp mem
  exact succeeds step among input taken

/-- The command in the machine, which accepts LBA addresses and a sector count
other than 0. -/
theorem writeSectors_port (tracked : Ata.Tracked machine.ata)
    (selected : machine.ata.pCurrDev = .master)
    (issued : deviceStep machine (.port host (.outb 0x1F7 0x30)) =
      .ok (response, next)) :
    machine.ata.master.reg .sectorCount ≠ 0 ∧
      ∃ history, Ata.Tracks next.ata history ∧
        history.written = [] ∧
          history.writeWords =
            256 * (machine.ata.master.reg .sectorCount).toNat ∧
          history.writeLba = Ata.lbaAddress machine.ata.master.reg ∧
          Ata.diskOf next.ata = Ata.diskOf machine.ata := by
  obtain ⟨history, tracks⟩ := tracked
  obtain ⟨answer, after, called, -, rfl⟩ :=
    (@Component.serves_eq_ok_iff _ _ _ _ _ _ _ _ ataAlone machine _
      (.port host (.outb 0x1F7 0x30))
      (host.calls, .outb Ata.portWCommand Ata.cmdWriteSectorsCode)
      response rfl).mp issued
  have event :=
    Ata.eventOf_command tracks.fixed selected Ata.cmdWriteSectorsCode
  have stepped := tracks.step called
  have kept := Ata.data_eq_of_not_commits tracks called not_false
  rw [event, Ata.currDev_of_master selected] at stepped
  exact ⟨Ata.count_of_writeSectors tracks.fixed selected called,
    _, stepped, rfl, rfl, rfl, congrArg Disk.ofBytes kept⟩

/-- What the words behind the command do to the disk. -/
theorem disk_of_writes
    (tracked : Ata.Tracked machine.ata)
    (selected : machine.ata.pCurrDev = .master)
    (issued : deviceStep machine (.port host (.outb 0x1F7 0x30)) =
      .ok (response, next))
    (succeeds : ∀ step ∈ later, FileSucceeds step)
    (keeps : StepsMeet deviceStep KeepsWrite next later)
    (ran : run deviceStep next later = .ok (delivered, final)) :
    (wordsToDisk later).length ≤
        256 * (machine.ata.master.reg .sectorCount).toNat ∧
      Ata.diskOf final.ata =
        if (wordsToDisk later).length =
            256 * (machine.ata.master.reg .sectorCount).toNat then
          (Ata.diskOf machine.ata).write
            (Ata.lbaAddress machine.ata.master.reg).toNat
            (machine.ata.master.reg .sectorCount).toNat
            (wordsToDisk later)
        else Ata.diskOf machine.ata := by
  obtain ⟨nonzero, history, tracks, none, announced, lba, disk⟩ :=
    writeSectors_port tracked selected issued
  obtain ⟨answers, ranAta, -⟩ :=
    @Component.runsAlone_of_run _ _ _ _ _ _ _ _ ataAlone _ _ _ _ ran
  have met :=
    @Component.stepsMeet_part _ _ _ _ _ _ _ _ ataAlone _
      (fun cont (input : HostCalls × Ata.Access) =>
        ¬ Ata.WriteCommanded cont input.2) _ _ _ keeps ran
  obtain ⟨file, ended, endTracks, continues⟩ :=
    Ata.fileAfter_run tracks (full_of_fileSucceeds succeeds) met ranAta
  have bound := endTracks.write.bound
  rw [continues.written, continues.writeWords, none, List.nil_append,
    announced] at bound
  refine ⟨bound, ?_⟩
  have positive :
      (machine.ata.master.reg .sectorCount).toNat ≠ 0 := fun zero =>
    nonzero (BitVec.eq_of_toNat_eq zero)
  change Disk.ofBytes final.ata.master.backingfile.data = _
  change final.ata.master.backingfile.data =
    Ata.fileAfter next.ata.master.backingfile.data history
      (wordsToDisk later) at file
  unfold Ata.fileAfter at file
  rw [none, announced, lba, List.nil_append, List.length_nil,
    Nat.zero_add] at file
  by_cases whole : (wordsToDisk later).length =
      256 * (machine.ata.master.reg .sectorCount).toNat
  · have some : wordsToDisk later ≠ [] := by
      intro empty
      rw [empty, List.length_nil] at whole
      omega
    rw [if_pos ⟨some, whole⟩] at file
    rw [file, if_pos whole, Disk.ofBytes_overwrite _ _ _ whole]
    exact congrArg (Disk.write · _ _ _) disk
  · rw [if_neg fun both => whole both.2] at file
    rw [file, if_neg whole]
    exact disk

/-- A write is atomic: until the last of the announced words the disk stays as
it was at the command, with that word it holds all of them, and no more words
are accepted, however the accesses are interleaved with other ones. -/
theorem writeSectors_atomic
    (start : Machine.start around = .ok first)
    (reached : run deviceStep first before = .ok (earlier, machine))
    (selected : machine.ata.pCurrDev = .master)
    (issued : deviceStep machine (.port host (.outb 0x1F7 0x30)) =
      .ok (response, next))
    (succeeds : ∀ step ∈ later, FileSucceeds step)
    (keeps : StepsMeet deviceStep KeepsWrite next later)
    (ran : run deviceStep next later = .ok (delivered, final)) :
    (wordsToDisk later).length ≤
        256 * (machine.ata.master.reg .sectorCount).toNat ∧
      Ata.diskOf final.ata =
        if (wordsToDisk later).length =
            256 * (machine.ata.master.reg .sectorCount).toNat then
          (Ata.diskOf machine.ata).write
            (Ata.lbaAddress machine.ata.master.reg).toNat
            (machine.ata.master.reg .sectorCount).toNat
            (wordsToDisk later)
        else Ata.diskOf machine.ata :=
  disk_of_writes (tracked_of_run (tracked_start start) reached) selected
    issued succeeds keeps ran

/-- A write to the task file through its port. -/
def taskStep (write : Ata.TaskWrite) : DeviceStep :=
  .port Host.atNoon (.outb (0x1F0 + write.target.port) write.val)

theorem takes_taskStep (write : Ata.TaskWrite) :
    ataAlone.takes (taskStep write) = some write.input := by
  obtain ⟨target, val⟩ := write
  have decoded : servedBy (0x1F0 + target.port) = some 20 := by
    cases target <;> decide
  have address : 0x1F0 + target.port - 0x1F0 = target.port := by
    cases target <;> decide
  have taken := @ataAlone_takes_port Host.atNoon
    (.outb (0x1F0 + target.port) val) decoded
  refine taken.trans ?_
  exact congrArg
    (fun port => some (HostCalls.full, Ata.Access.outb port val)) address

/-- The registers can be programmed at any time. -/
theorem exists_run_setup {setup : List Ata.TaskWrite}
    (fixed : Ata.Fixed machine.ata)
    (selected : machine.ata.pCurrDev = .master)
    (keeps : ∀ write ∈ setup, write.KeepsMaster) :
    ∃ delivered final,
      run deviceStep machine (setup.map taskStep) =
          .ok (delivered, final) ∧
        final.ata = Ata.withRegs machine.ata
          (setup.foldl Ata.TaskWrite.apply machine.ata.master.reg) := by
  induction setup generalizing machine with
  | nil => exact ⟨[], machine, rfl, rfl⟩
  | cons write rest inductionHypothesis =>
      have answered := Ata.access_taskWrite fixed selected
        (keeps write List.mem_cons_self)
      have called :=
        (@Component.serves_eq_ok_iff _ _ _ _ _ _ _ _ ataAlone machine _ _
          _ _ (takes_taskStep write)).mpr ⟨_, _, answered, rfl, rfl⟩
      obtain ⟨delivered, final, ran, programmed⟩ :=
        @inductionHypothesis
          (ataAlone.set (Ata.withRegs machine.ata
            (write.apply machine.ata.master.reg)) machine)
          (fixed.withRegs _) selected
          fun later mem => keeps later (List.mem_cons_of_mem _ mem)
      exact ⟨_, final, run_cons called ran, programmed⟩

/-- The first sector is programmed, whatever came before. -/
def programFirst : List DeviceStep :=
  (Ata.program 0 1).setup.map taskStep

theorem exists_run_programFirst (tracked : Ata.Tracked machine.ata)
    (selected : machine.ata.pCurrDev = .master) :
    ∃ delivered final,
      run deviceStep machine programFirst = .ok (delivered, final) ∧
        final.ata.pCurrDev = .master ∧
          Ata.isLba final.ata.master.reg = true ∧
          Ata.lbaAddress final.ata.master.reg = 0 ∧
          final.ata.master.reg .sectorCount = 1 := by
  obtain ⟨history, tracks⟩ := tracked
  obtain ⟨delivered, final, ran, programmed⟩ :=
    exists_run_setup tracks.fixed selected (Ata.program 0 1).keeps
  refine ⟨delivered, final, ran, ?_⟩
  have lbaMode := (Ata.program 0 1).lbaMode machine.ata.master.reg
  have address := (Ata.program 0 1).address machine.ata.master.reg
  have counted := (Ata.program 0 1).sectorCount machine.ata.master.reg
  rw [programmed]
  exact ⟨selected, lbaMode, address, counted⟩

/-- The write command is accepted for the sector that was programmed. -/
theorem exists_writeSectors_first (tracked : Ata.Tracked machine.ata)
    (selected : machine.ata.pCurrDev = .master)
    (lba : Ata.isLba machine.ata.master.reg = true)
    (counted : machine.ata.master.reg .sectorCount = 1) :
    ∃ next history,
      deviceStep machine (.port Host.atNoon (.outb 0x1F7 0x30)) =
          .ok (.data .none, next) ∧
        next.ata.pCurrDev = .master ∧ Ata.Tracks next.ata history ∧
          history.written = [] ∧ history.writeWords = 256 := by
  have nonzero : machine.ata.master.reg .sectorCount ≠ 0 := by
    rw [counted]
    decide
  have ⟨past, programmed⟩ := tracked
  have issued := (@Component.serves_eq_ok_iff _ _ _ _ _ _ _ _ ataAlone
    machine _ (.port Host.atNoon (.outb 0x1F7 0x30))
    (HostCalls.full, .outb Ata.portWCommand Ata.cmdWriteSectorsCode)
    (.data .none) rfl).mpr
      ⟨_, _, Ata.access_writeSectors HostCalls.full programmed.fixed
        selected lba nonzero, rfl, rfl⟩
  obtain ⟨-, history, tracks, none, announced, -⟩ :=
    writeSectors_port tracked selected issued
  rw [counted] at announced
  exact ⟨_, history, issued, selected, tracks, none, announced⟩

theorem exists_programmed_bare :
    ∃ first machine delivered, Machine.start bare = .ok first ∧
      run deviceStep first programFirst = .ok (delivered, machine) ∧
      machine.ata.pCurrDev = .master ∧
        Ata.isLba machine.ata.master.reg = true ∧
        Ata.lbaAddress machine.ata.master.reg = 0 ∧
        machine.ata.master.reg .sectorCount = 1 := by
  obtain ⟨first, start⟩ := exists_start_bare
  have selected : first.ata.pCurrDev = .master := by
    rw [(started_of_start start).ata]
    rfl
  obtain ⟨delivered, machine, ran, programmed⟩ :=
    exists_run_programFirst (tracked_start start) selected
  exact ⟨first, machine, delivered, start, ran, programmed⟩

/-- A key is pressed before the first word is written. -/
theorem writeSectors_atomic_key :
    ∃ machine next final delivered,
      deviceStep machine (.port Host.atNoon (.outb 0x1F7 0x30)) =
        .ok (.data .none, next) ∧
      run deviceStep next
          [.key 0x1E true, .port Host.atNoon (.outw 0x1F0 0xAA55)] =
        .ok (delivered, final) ∧
      ((wordsToDisk
            [.key 0x1E true,
              .port Host.atNoon (.outw 0x1F0 0xAA55)]).length ≤
          256 * (machine.ata.master.reg .sectorCount).toNat ∧
        Ata.diskOf final.ata =
          if (wordsToDisk
              [.key 0x1E true,
                .port Host.atNoon (.outw 0x1F0 0xAA55)]).length =
              256 * (machine.ata.master.reg .sectorCount).toNat then
            (Ata.diskOf machine.ata).write
              (Ata.lbaAddress machine.ata.master.reg).toNat
              (machine.ata.master.reg .sectorCount).toNat
              (wordsToDisk
                [.key 0x1E true,
                  .port Host.atNoon (.outw 0x1F0 0xAA55)])
          else Ata.diskOf machine.ata) := by
  obtain ⟨first, machine, _, start, reached, selected, lba, -, counted⟩ :=
    exists_programmed_bare
  obtain ⟨next, history, issued, still, tracks, none, announced⟩ :=
    exists_writeSectors_first
      (tracked_of_run (tracked_start start) reached) selected lba counted
  have stored := Ata.access_outw_more HostCalls.full tracks still 0xAA55
    (by rw [none, announced]; decide)
  have pressed : deviceStep next (.key 0x1E true) =
      .ok (.data .none,
        { next with kbd := Keyboard.kbdInject next.kbd 0x1E true }) := rfl
  have word := (@Component.serves_eq_ok_iff _ _ _ _ _ _ _ _ ataAlone
    { next with kbd := Keyboard.kbdInject next.kbd 0x1E true } _
    (.port Host.atNoon (.outw 0x1F0 0xAA55))
    (HostCalls.full, .outw 0 0xAA55) _ rfl).mpr ⟨_, _, stored, rfl, rfl⟩
  have ran := run_cons pressed (run_one word)
  have succeeds : ∀ step ∈ ([.key 0x1E true,
      .port Host.atNoon (.outw 0x1F0 0xAA55)] : List DeviceStep),
        FileSucceeds step := by
    intro step mem own taken
    simp only [List.mem_cons, List.not_mem_nil, or_false] at mem
    rcases mem with rfl | rfl
    · cases taken
    · cases taken
      rfl
  have kept : KeepsWrite
      { next with kbd := Keyboard.kbdInject next.kbd 0x1E true }
      (.port Host.atNoon (.outw 0x1F0 0xAA55)) := by
    intro own taken
    cases taken
    intro commanded
    cases commanded
  have keeps : StepsMeet deviceStep KeepsWrite next
      [.key 0x1E true, .port Host.atNoon (.outw 0x1F0 0xAA55)] :=
    (stepsMeet_cons_iff pressed).mpr
      ⟨fun _ taken => (by cases taken), kept, fun _ _ _ => trivial⟩
  exact ⟨machine, next, _, _, issued, ran,
    writeSectors_atomic start reached selected issued succeeds keeps ran⟩

end Writes

end Kvmulate.Devices
