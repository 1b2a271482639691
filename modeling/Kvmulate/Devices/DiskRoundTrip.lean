import Kvmulate.Devices.DiskWrites

/-!
# Reading back what was written

The sectors of a completed write are what a later command reads, from the
whole machine at work.
-/

namespace Kvmulate.Devices

open DeviceLib Kvmulate.Io Kvmulate.System

section RoundTrip

variable {around : Surroundings} {first machine next second third final : Machine}
variable {before middle later : List DeviceStep}
variable {earlier written delivered : List Vga.VideoResponse}
variable {host readHost : Host} {response answer : Vga.VideoResponse}

/-- What the guest reads of sectors that it has written, in LBA or in CHS mode
and with any other steps in between, is what it wrote. -/
theorem disk_reads_back
    (start : Machine.start around = .ok first)
    (reached : run deviceStep first before = .ok (earlier, machine))
    (selected : machine.ata.pCurrDev = .master)
    (issued : deviceStep machine (.port host (.outb 0x1F7 0x30)) =
      .ok (response, next))
    (succeeds : ∀ step ∈ middle, FileSucceeds step)
    (keepsWrite : StepsMeet deviceStep KeepsWrite next middle)
    (ranWrite : run deviceStep next middle = .ok (written, second))
    (whole : (wordsToDisk middle).length =
      256 * (machine.ata.master.reg .sectorCount).toNat)
    (selectedAgain : second.ata.pCurrDev = .master)
    (full : readHost.calls = HostCalls.full)
    (requested : deviceStep second (.port readHost (.outb 0x1F7 0x20)) =
      .ok (answer, third))
    (lower : (Ata.lbaAddress machine.ata.master.reg).toNat ≤
      (Ata.readSectorsLba second.ata.master.reg).toNat)
    (upper : (Ata.readSectorsLba second.ata.master.reg).toNat +
        Ata.announcedSectors (second.ata.master.reg .sectorCount) ≤
      (Ata.lbaAddress machine.ata.master.reg).toNat +
        (machine.ata.master.reg .sectorCount).toNat)
    (keepsBuffer : StepsMeet deviceStep KeepsBuffer third later)
    (ranRead : run deviceStep third later = .ok (delivered, final)) :
    diskWords later delivered ++ final.ata.master.unread =
      ((wordsToDisk middle).drop
          (256 *
            ((Ata.readSectorsLba second.ata.master.reg).toNat -
              (Ata.lbaAddress machine.ata.master.reg).toNat))).take
        (256 * Ata.announcedSectors
          (second.ata.master.reg .sectorCount)) := by
  have tracked := tracked_of_run (tracked_start start) reached
  obtain ⟨-, disk⟩ :=
    disk_of_writes tracked selected issued succeeds keepsWrite ranWrite
  rw [if_pos whole] at disk
  have reachedSecond :=
    run_append reached (run_cons issued ranWrite)
  obtain ⟨trackedThird, filled⟩ :=
    unread_after_readSectors start reachedSecond selectedAgain full
      requested
  rw [← unread_of_run trackedThird keepsBuffer ranRead, filled, disk]
  exact Disk.read_write _ whole ⟨lower, upper⟩

end RoundTrip

/-! ## One sector -/

def oneSector : List Uint16 := List.replicate 256 0xAA55

def writeStep (word : Uint16) : DeviceStep :=
  .port Host.atNoon (.outw 0x1F0 word)

theorem takes_writeStep (word : Uint16) :
    ataAlone.takes (writeStep word) =
      some (HostCalls.full, .outw 0 word) := by
  have decoded : servedBy 0x1F0 = some 20 := by
    decide
  exact ataAlone_takes_port decoded

theorem inputs_writeStep (words : List Uint16) :
    ataAlone.inputs (words.map writeStep) = Ata.outwAll words := by
  induction words with
  | nil => rfl
  | cons word rest inductionHypothesis =>
      rw [List.map_cons,
        Component.inputs_cons_of_some (takes_writeStep word),
        inductionHypothesis]
      rfl

/-- The words, and the registers for reading the first sector. -/
def writeAndProgram (words : List Uint16) : List DeviceStep :=
  words.map writeStep ++ programFirst

section Steps

variable {words : List Uint16} {step : DeviceStep}

theorem of_mem_writeAndProgram (mem : step ∈ writeAndProgram words) :
    (∃ word, step = writeStep word) ∨ ∃ write, step = taskStep write := by
  rcases List.mem_append.mp mem with mem | mem
  · obtain ⟨word, -, same⟩ := List.mem_map.mp mem
    exact .inl ⟨word, same.symm⟩
  · obtain ⟨write, -, same⟩ := List.mem_map.mp mem
    exact .inr ⟨write, same.symm⟩

theorem fileSucceeds_writeAndProgram
    (mem : step ∈ writeAndProgram words) : FileSucceeds step := by
  intro own taken
  rcases of_mem_writeAndProgram mem with ⟨word, rfl⟩ | ⟨write, rfl⟩
  · cases (takes_writeStep word).symm.trans taken
    rfl
  · cases (takes_taskStep write).symm.trans taken
    rfl

theorem keepsWrite_writeAndProgram (machine : Machine)
    (mem : step ∈ writeAndProgram words) : KeepsWrite machine step := by
  intro own taken
  rcases of_mem_writeAndProgram mem with ⟨word, rfl⟩ | ⟨write, rfl⟩
  · cases (takes_writeStep word).symm.trans taken
    intro commanded
    cases commanded
  · cases (takes_taskStep write).symm.trans taken
    intro commanded
    cases (Ata.eventOf_taskWrite _ _).symm.trans commanded

theorem outWords_outwAll (words : List Uint16) :
    Ata.outWords (Ata.outwAll words) = words := by
  unfold Ata.outWords Ata.outwAll
  rw [List.filterMap_map]
  exact List.filterMap_some

/-- Registers are written by bytes. -/
theorem outWords_taskSteps (setup : List Ata.TaskWrite) :
    Ata.outWords (ataAlone.inputs (setup.map taskStep)) = [] := by
  induction setup with
  | nil => rfl
  | cons write rest inductionHypothesis =>
      rw [List.map_cons,
        Component.inputs_cons_of_some (takes_taskStep write)]
      exact inductionHypothesis

theorem wordsToDisk_writeAndProgram (words : List Uint16) :
    wordsToDisk (writeAndProgram words) = words := by
  have split : ataAlone.inputs (writeAndProgram words) =
      Ata.outwAll words ++ ataAlone.inputs programFirst := by
    rw [← inputs_writeStep]
    exact List.filterMap_append
  unfold wordsToDisk
  rw [split, Ata.outWords_append, outWords_outwAll]
  exact (congrArg (words ++ ·)
    (outWords_taskSteps (Ata.program 0 1).setup)).trans
      (List.append_nil _)

theorem exists_run_words {machine : Machine} {history : Ata.History}
    (tracks : Ata.Tracks machine.ata history)
    (selected : machine.ata.pCurrDev = .master)
    (fits : history.written.length + words.length ≤ history.writeWords) :
    ∃ delivered final,
      run deviceStep machine (words.map writeStep) =
          .ok (delivered, final) ∧
        final.ata.pCurrDev = .master := by
  obtain ⟨answers, after, ranAta, still⟩ :=
    Ata.exists_run_outw tracks selected fits
  rw [← inputs_writeStep] at ranAta
  obtain ⟨delivered, final, ran⟩ :=
    (@Component.exists_run_iff _ _ _ _ _ _ _ _ ataAlone machine
      (words.map writeStep) (by
        intro step mem
        obtain ⟨word, -, same⟩ := List.mem_map.mp mem
        rw [← same, takes_writeStep]
        rfl)).mpr ⟨answers, after, ranAta⟩
  obtain ⟨others, ranAgain, -⟩ :=
    @Component.runsAlone_of_run _ _ _ _ _ _ _ _ ataAlone _ _ _ _ ran
  have ended : after = final.ata :=
    (Prod.mk.inj (Except.ok.inj (ranAta.symm.trans ranAgain))).2
  rw [ended] at still
  exact ⟨delivered, final, ran, still⟩

end Steps

/-- The first sector is programmed and written, then programmed and asked for
again. -/
def roundTrip : List DeviceStep :=
  programFirst ++ .port Host.atNoon (.outb 0x1F7 0x30) ::
    (writeAndProgram oneSector ++ [.port Host.atNoon (.outb 0x1F7 0x20)])

theorem disk_reads_back_sector :
    ∃ first delivered third, Machine.start bare = .ok first ∧
      run deviceStep first roundTrip = .ok (delivered, third) ∧
        third.ata.master.unread = oneSector := by
  obtain ⟨first, machine, set, start, reached, selected, lba, address,
    counted⟩ := exists_programmed_bare
  have tracked := tracked_of_run (tracked_start start) reached
  obtain ⟨next, history, issued, still, tracks, none, announced⟩ :=
    exists_writeSectors_first tracked selected lba counted
  have sized : oneSector.length = 256 := List.length_replicate
  obtain ⟨written, middle, ranWords, stillMiddle⟩ :=
    @exists_run_words oneSector _ _ tracks still
      (by rw [none, announced, sized]; decide)
  have trackedMiddle := tracked_of_run ⟨history, tracks⟩ ranWords
  obtain ⟨programmed, second, ranSetup, selectedSecond, lbaSecond,
    addressSecond, countedSecond⟩ :=
    exists_run_programFirst trackedMiddle stillMiddle
  have ranWrite := run_append ranWords ranSetup
  obtain ⟨past, tracksSecond⟩ := tracked_of_run trackedMiddle ranSetup
  have requested := (@Component.serves_eq_ok_iff _ _ _ _ _ _ _ _ ataAlone
    second _ (.port Host.atNoon (.outb 0x1F7 0x20))
    (HostCalls.full, .outb Ata.portWCommand Ata.cmdReadSectorsCode)
    (.data .none) rfl).mpr
      ⟨_, _, Ata.access_readSectors HostCalls.full tracksSecond.fixed
        selectedSecond, rfl, rfl⟩
  have from_zero : Ata.readSectorsLba second.ata.master.reg = 0 := by
    unfold Ata.readSectorsLba
    rw [if_pos lbaSecond, addressSecond]
  have keepsWrite : StepsMeet deviceStep KeepsWrite next
      (writeAndProgram oneSector) :=
    @stepsMeet_of_invariant _ _ _ deviceStep (fun _ => True) KeepsWrite
      (fun step => step ∈ writeAndProgram oneSector)
      (fun _ _ => trivial)
      (fun _ mem => keepsWrite_writeAndProgram _ mem) _ _ trivial
      fun _ mem => mem
  have quiet : ∀ machine, StepsMeet deviceStep KeepsBuffer machine [] :=
    fun _ => trivial
  have back := disk_reads_back start reached selected issued
    (fun _ mem => fileSucceeds_writeAndProgram mem) keepsWrite ranWrite
    (by rw [wordsToDisk_writeAndProgram, counted, sized]; rfl)
    selectedSecond rfl requested (by rw [address, from_zero])
    (by rw [address, from_zero, countedSecond, counted]; decide)
    (quiet _) rfl
  refine ⟨first, _, _, start, run_append reached (run_cons issued
    (run_append ranWrite (run_one requested))), back.trans ?_⟩
  rw [wordsToDisk_writeAndProgram, address, from_zero, countedSecond]
  exact List.take_of_length_le (Nat.le_of_eq sized)

end Kvmulate.Devices
