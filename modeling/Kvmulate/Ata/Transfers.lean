import Kvmulate.Ata.DataPhase
import Kvmulate.Ata.Programming
import Kvmulate.Lib.BlockDevice

/-!
# The controller as a block device

Whole transfers in LBA mode, each one programmed, started and drained, are
answered like the requests of a block device.
-/

namespace Kvmulate.Ata

open DeviceLib

/-- A transfer of the present device. -/
inductive Transfer where
  | read (programmed : Programmed)
  | write (programmed : Programmed) (words : List Uint16)
      (nonzero : programmed.count ≠ 0)
      (length : words.length = 256 * programmed.count.toNat)

/-- The sectors that a count register asks to read. -/
def announcedSectors (count : Uint8) : Nat :=
  if count = 0 then 256 else count.toNat

namespace Transfer

/-- The accesses of a driver for the transfer. -/
def inputs : Transfer → List (HostCalls × Access)
  | .read programmed =>
      programmed.setup.map TaskWrite.input ++
        (HostCalls.full, .outb portWCommand cmdReadSectorsCode) ::
          List.replicate (256 * announcedSectors programmed.count)
            (HostCalls.full, .inw 0)
  | .write programmed words _ _ =>
      programmed.setup.map TaskWrite.input ++
        (HostCalls.full, .outb portWCommand cmdWriteSectorsCode) ::
          outwAll words

/-- What the transfer asks of a block device. -/
def request : Transfer → BlockRequest
  | .read programmed =>
      .read programmed.lba.toNat (announcedSectors programmed.count)
  | .write programmed words _ _ =>
      .write programmed.lba.toNat programmed.count.toNat words

end Transfer

/-- The disk that the backing file of the master holds. -/
def diskOf (cont : AtaController) : Disk :=
  Disk.ofBytes cont.master.backingfile.data

/-- A run that a block device would answer alike. -/
structure AnswersLike (state : AtaController × History)
    (inputs : List (HostCalls × Access)) (responses : List Response)
    (final : AtaController × History) (answer : List Word × Disk) :
    Prop where
  ran : run accessObserved state inputs = .ok (responses, final)
  related : Related final
  selected : final.1.pCurrDev = .master
  requested : StepsMeet accessObserved Requested state inputs
  words : dataWords responses = answer.1
  disk : diskOf final.1 = answer.2

/-! ## One transfer -/

theorem dataWords_map_none (setup : List TaskWrite) :
    dataWords (setup.map fun _ => .none) = [] := by
  induction setup with
  | nil => rfl
  | cons write rest inductionHypothesis => exact inductionHypothesis

theorem requested_setup (setup : List TaskWrite)
    (state : AtaController × History) :
    StepsMeet accessObserved Requested state
      (setup.map TaskWrite.input) := by
  refine stepsMeet_of_invariant (fun input => ∃ write : TaskWrite,
    input = write.input) (fun _ _ => trivial) ?_ trivial ?_
  · intro _ _ _ accepted
    obtain ⟨write, rfl⟩ := accepted
    trivial
  · intro input mem
    obtain ⟨write, -, rfl⟩ := List.mem_map.mp mem
    exact ⟨write, rfl⟩

/-- A setup, a command and a data phase, one behind the other. -/
theorem run_phases {cont next : AtaController}
    {history later : History} {final : AtaController × History}
    {cmd : Uint8} {data : List (HostCalls × Access)}
    {responses : List Response} {programmed : Programmed} {reg : Regs}
    (fixed : Fixed cont) (selected : cont.pCurrDev = .master)
    (programs :
      programmed.setup.foldl TaskWrite.apply cont.master.reg = reg)
    (started :
      accessObserved (withRegs cont reg, history)
          (HostCalls.full, .outb portWCommand cmd) =
        .ok (.none, (next, later)))
    (transferred :
      run accessObserved (next, later) data = .ok (responses, final))
    (requested : StepsMeet accessObserved Requested (next, later) data) :
    ∃ all,
      run accessObserved (cont, history)
          (programmed.setup.map TaskWrite.input ++
            (HostCalls.full, .outb portWCommand cmd) :: data) =
        .ok (all, final) ∧
      dataWords all = dataWords responses ∧
      StepsMeet accessObserved Requested (cont, history)
        (programmed.setup.map TaskWrite.input ++
          (HostCalls.full, .outb portWCommand cmd) :: data) := by
  have prepared := run_setup history fixed selected programmed.keeps
  rw [programs] at prepared
  refine ⟨_, run_append prepared (run_cons started transferred), ?_,
    stepsMeet_append prepared (requested_setup _ _)
      ⟨trivial, fun response state called => ?_⟩⟩
  · rw [dataWords_append, dataWords_map_none, List.nil_append,
      dataWords_none]
  · rw [started] at called
    cases called
    exact requested

/-- READ SECTORS fills the buffer with the programmed window of the file. -/
theorem readDev_buffer (dev : AtaDev) {lba : Uint32}
    (lbaMode : isLba dev.reg = true) (address : lbaAddress dev.reg = lba) :
    (readDev HostCalls.full dev).readBuffer.getD [] =
      window dev.backingfile.data (512 * lba.toNat)
        (readSectorsCount dev.reg * 512) := by
  have offset : readSectorsOffset dev.reg = 512 * lba.toNat := by
    rw [readSectorsOffset, readSectorsLba, if_pos lbaMode, address,
      sectorOffset_setWidth]
  rw [readDev_window, offset]

theorem announcedSectors_pos (count : Uint8) :
    0 < announcedSectors count := by
  unfold announcedSectors
  split
  · decide
  · rename_i nonzero
    have positive : count.toNat ≠ 0 := fun zero =>
      nonzero (BitVec.eq_of_toNat_eq zero)
    omega

section Transfers

variable {cont : AtaController} {history : History}

theorem started_read (tracks : Tracks cont history)
    (selected : cont.pCurrDev = .master) {reg : Regs} {count : Uint8}
    (counted : reg .sectorCount = count) :
    accessObserved (withRegs cont reg, history)
        (HostCalls.full, .outb portWCommand cmdReadSectorsCode) =
      .ok (.none,
        ({ withRegs cont reg with
            master :=
              readDev HostCalls.full
                (withCommand (withRegs cont reg).master
                  cmdReadSectorsCode)
            irq14 := true },
          { history with
            latest := some .read
            readWords := 256 * announcedSectors count
            wordsRead := 0 })) := by
  have fixed := tracks.fixed.withRegs reg
  refine observed_eq_ok_iff.mpr
    ⟨access_readSectors HostCalls.full fixed selected, ?_⟩
  have registers : (withRegs cont reg).currDev.reg = reg := by
    rw [currDev_of_master (by exact selected)]
    rfl
  rw [History.observe, eventOf_command fixed selected, registers,
    ← counted]
  rfl

/-- The words of the buffer are the sectors of the disk. -/
theorem readBuffer_words (cont : AtaController) {reg : Regs}
    {lba : Uint32} {count : Uint8} (lbaMode : isLba reg = true)
    (address : lbaAddress reg = lba) (counted : reg .sectorCount = count) :
    (List.range (256 * announcedSectors count)).map (fun index =>
        loadWord
          ((readDev HostCalls.full
            (withCommand (withRegs cont reg).master
              cmdReadSectorsCode)).readBuffer.getD [])
          (2 * (0 + index))) =
      (diskOf cont).read lba.toNat (announcedSectors count) := by
  have programmed :
      readSectorsCount
          (withCommand (withRegs cont reg).master
            cmdReadSectorsCode).reg =
        announcedSectors count := by
    rw [readSectorsCount_withCommand, ← counted]
    rfl
  have addressed :
      lbaAddress
          (withCommand (withRegs cont reg).master
            cmdReadSectorsCode).reg = lba := by
    rw [lbaAddress_withCommand]
    exact address
  have buffer :=
    readDev_buffer
      (withCommand (withRegs cont reg).master cmdReadSectorsCode)
      lbaMode addressed
  rw [programmed] at buffer
  rw [buffer, diskOf, Disk.read_ofBytes]
  refine List.map_congr_left fun index mem => ?_
  have inside := List.mem_range.mp mem
  rw [Nat.zero_add, loadWord_window _ (by omega)]
  rfl

theorem run_readTransfer (tracks : Tracks cont history)
    (selected : cont.pCurrDev = .master) (programmed : Programmed) :
    ∃ responses final,
      AnswersLike (cont, history) (Transfer.read programmed).inputs
          responses final
          ((Transfer.read programmed).request.serve (diskOf cont)) ∧
        ¬ final.1.master.drq := by
  have lbaMode := programmed.lbaMode cont.master.reg
  have address := programmed.address cont.master.reg
  have counted := programmed.sectorCount cont.master.reg
  generalize programs :
    programmed.setup.foldl TaskWrite.apply cont.master.reg = reg
      at lbaMode address counted
  have started := started_read tracks selected counted
  have prepared : Related (withRegs cont reg, history) :=
    tracks.withRegs reg
  have startedTracks := related_step prepared started
  have initially : Related (cont, history) := tracks
  have positive := announcedSectors_pos programmed.count
  obtain ⟨responses, final, transferred, words, requested, still, file,
    drq⟩ :=
    run_dataIn HostCalls.full (256 * announcedSectors programmed.count)
      ⟨startedTracks, selected, rfl,
        iff_of_true (drq_of_offered rfl)
          (by omega : 0 < 256 * announcedSectors programmed.count)⟩
      (Nat.le_of_eq (Nat.zero_add _))
  obtain ⟨all, ran, allWords, allRequested⟩ :=
    run_phases tracks.fixed selected programs started transferred
      requested
  refine ⟨all, _, ⟨ran, run_invariant related_step initially ran, still,
    allRequested, ?_, ?_⟩, ?_⟩
  · rw [allWords, words]
    exact readBuffer_words cont lbaMode address counted
  · change Disk.ofBytes final.master.backingfile.data = diskOf cont
    rw [file]
    rfl
  · rw [drq]
    simp

theorem started_write (tracks : Tracks cont history)
    (selected : cont.pCurrDev = .master) {reg : Regs} {lba : Uint32}
    {count : Uint8} (lbaMode : isLba reg = true)
    (address : lbaAddress reg = lba) (counted : reg .sectorCount = count)
    (nonzero : count ≠ 0) :
    accessObserved (withRegs cont reg, history)
        (HostCalls.full, .outb portWCommand cmdWriteSectorsCode) =
      .ok (.none,
        ({ withRegs cont reg with
            master :=
              writeDev
                (withCommand (withRegs cont reg).master
                  cmdWriteSectorsCode)
            irq14 := false },
          { history with
            latest := some .write
            writeWords := 256 * count.toNat
            written := []
            writeLba := lba })) := by
  have fixed := tracks.fixed.withRegs reg
  have some : reg .sectorCount ≠ 0 := by
    rw [counted]
    exact nonzero
  refine observed_eq_ok_iff.mpr
    ⟨access_writeSectors HostCalls.full fixed selected lbaMode some, ?_⟩
  have registers : (withRegs cont reg).currDev.reg = reg := by
    rw [currDev_of_master (by exact selected)]
    rfl
  rw [History.observe, eventOf_command fixed selected, registers,
    ← counted, ← address]
  rfl

theorem run_writeTransfer (tracks : Tracks cont history)
    (selected : cont.pCurrDev = .master) (programmed : Programmed)
    (words : List Uint16) (nonzero : programmed.count ≠ 0)
    (length : words.length = 256 * programmed.count.toNat) :
    ∃ responses final,
      AnswersLike (cont, history)
          (Transfer.write programmed words nonzero length).inputs
          responses final
          ((Transfer.write programmed words nonzero
            length).request.serve (diskOf cont)) ∧
        ¬ final.1.master.drq := by
  have lbaMode := programmed.lbaMode cont.master.reg
  have address := programmed.address cont.master.reg
  have counted := programmed.sectorCount cont.master.reg
  generalize programs :
    programmed.setup.foldl TaskWrite.apply cont.master.reg = reg
      at lbaMode address counted
  have started :=
    started_write tracks selected lbaMode address counted nonzero
  have prepared : Related (withRegs cont reg, history) :=
    tracks.withRegs reg
  have startedTracks := related_step prepared started
  have initially : Related (cont, history) := tracks
  have positive : programmed.count.toNat ≠ 0 := fun zero =>
    nonzero (BitVec.eq_of_toNat_eq zero)
  cases words with
  | nil =>
      simp only [List.length_nil] at length
      omega
  | cons val rest =>
      obtain ⟨responses, final, transferred, silent, requested, still,
        file, clear⟩ :=
        run_dataOut
          ⟨startedTracks, selected, rfl,
            iff_of_true (drq_of_offered rfl)
              (by omega : 0 < 256 * programmed.count.toNat)⟩
          (by omega : 0 + (val :: rest).length =
              256 * programmed.count.toNat)
      obtain ⟨all, ran, allWords, allRequested⟩ :=
        run_phases tracks.fixed selected programs started transferred
          requested
      refine ⟨all, _, ⟨ran, run_invariant related_step initially ran,
        still, allRequested, ?_, ?_⟩, clear⟩
      · rw [allWords, silent]
        rfl
      · change Disk.ofBytes final.master.backingfile.data = _
        rw [file]
        exact Disk.ofBytes_overwrite _ _ _ length

/-- Every transfer is answered like its request, and leaves DRQ clear. -/
theorem run_transfer (tracks : Tracks cont history)
    (selected : cont.pCurrDev = .master) (transfer : Transfer) :
    ∃ responses final,
      AnswersLike (cont, history) transfer.inputs responses final
          (transfer.request.serve (diskOf cont)) ∧
        ¬ final.1.master.drq := by
  cases transfer with
  | read programmed =>
      exact run_readTransfer tracks selected programmed
  | write programmed words nonzero length =>
      exact run_writeTransfer tracks selected programmed words nonzero
        length

/-! ## Sequences of transfers -/

theorem run_transfers {transfers : List Transfer}
    (tracks : Tracks cont history) (selected : cont.pCurrDev = .master) :
    ∃ responses final,
      AnswersLike (cont, history) (transfers.flatMap Transfer.inputs)
          responses final
          (BlockRequest.serveAll (diskOf cont)
            (transfers.map Transfer.request)) ∧
        (transfers ≠ [] → ¬ final.1.master.drq) := by
  induction transfers generalizing cont history with
  | nil =>
      exact ⟨[], (cont, history),
        ⟨rfl, tracks, selected, trivial, rfl, rfl⟩,
        fun some => absurd rfl some⟩
  | cons transfer rest inductionHypothesis =>
      obtain ⟨first, ⟨next, later⟩, one, clear⟩ :=
        run_transfer tracks selected transfer
      obtain ⟨others, final, more, restClear⟩ :=
        inductionHypothesis one.related one.selected
      have disk : diskOf next = _ := one.disk
      rw [disk] at more
      refine ⟨first ++ others, final,
        ⟨run_append one.ran more.ran,
          more.related, more.selected,
          stepsMeet_append one.ran one.requested more.requested, ?_,
          more.disk⟩, ?_⟩
      · rw [dataWords_append, one.words, more.words]
        rfl
      · intro _
        cases rest with
        | nil =>
            cases more.ran
            exact clear
        | cons second rest =>
            exact restClear (List.cons_ne_nil second rest)

end Transfers

/-- From every reachable state with the master selected, every sequence of
transfers runs to its end: the words read and the disk left behind are those
of a block device, DRQ is set before every data word and clear after the last
word of every transfer. -/
theorem transfers_refine_blockDevice (image : List Uint8)
    (before : List (HostCalls × Access)) (earlier : List Response)
    (cont : AtaController)
    (reached : run access (x86AtaInit image) before = .ok (earlier, cont))
    (selected : cont.pCurrDev = .master) (transfers : List Transfer) :
    ∃ responses final,
      run access cont (transfers.flatMap Transfer.inputs) =
          .ok (responses, final) ∧
        (dataWords responses, diskOf final) =
          BlockRequest.serveAll (diskOf cont)
            (transfers.map Transfer.request) ∧
        StepsMeet access RequestedBefore cont
          (transfers.flatMap Transfer.inputs) ∧
        (transfers ≠ [] → ¬ final.master.drq) := by
  obtain ⟨history, reachedObserved⟩ :=
    exists_run_observed History.observe History.start reached
  have tracks : Tracks cont history := related_of_run reachedObserved
  obtain ⟨responses, ⟨final, later⟩, answers, clear⟩ :=
    run_transfers tracks selected
  exact ⟨responses, final, run_of_observed answers.ran,
    Prod.ext answers.words answers.disk,
    (stepsMeet_observed_iff RequestedBefore).mp answers.requested, clear⟩

/-- A sector is written and read back. -/
theorem transfers_refine_blockDevice_writeRead :
    let transfers :=
      [Transfer.write (program 5 1) (List.replicate 256 0xABCD)
          (by decide) (by rw [List.length_replicate]; decide),
        Transfer.read (program 5 1)]
    ∃ responses final,
      run access (x86AtaInit []) (transfers.flatMap Transfer.inputs) =
          .ok (responses, final) ∧
        (dataWords responses, diskOf final) =
          BlockRequest.serveAll (diskOf (x86AtaInit []))
            (transfers.map Transfer.request) ∧
        StepsMeet access RequestedBefore (x86AtaInit [])
          (transfers.flatMap Transfer.inputs) ∧
        (transfers ≠ [] → ¬ final.master.drq) :=
  transfers_refine_blockDevice [] [] [] (x86AtaInit []) rfl rfl _

end Kvmulate.Ata
