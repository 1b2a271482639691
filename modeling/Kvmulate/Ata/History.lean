import Kvmulate.Ata.Steps
import Mathlib.Tactic.Linarith

/-!
# The transfers that a guest has asked for

A `History` records, from the guest's accesses alone, which data command came
last and how many words of it have been transferred.  `Tracks` relates it to
the buffers and offsets of the controller, in every reachable state.
-/

namespace Kvmulate.Ata

open DeviceLib

inductive Direction where
  | read
  | write
deriving DecidableEq, Repr

/-- `latest` is the direction of the data command that the present device was
given last, if no other command and no soft reset followed it.  The counters
of a direction run from the latest data command of that direction. -/
structure History where
  latest : Option Direction
  readWords : Nat
  wordsRead : Nat
  writeWords : Nat
  written : List Uint16
  writeLba : Uint32

namespace History

def start : History := ⟨none, 0, 0, 0, [], 0⟩

/-- The history after an event, where `reg` are the registers of the device at
that moment. -/
def after (history : History) (reg : Regs) : Event → History
  | .register => history
  | .reset => { history with latest := none }
  | .command cmd =>
      if cmd = cmdReadSectorsCode then
        { history with
          latest := some .read
          readWords := 256 * readSectorsCount reg
          wordsRead := 0 }
      else if cmd = cmdIdentifyDeviceCode then
        { history with
          latest := some .read, readWords := 256, wordsRead := 0 }
      else if cmd = cmdWriteSectorsCode then
        { history with
          latest := some .write
          writeWords := 256 * (reg .sectorCount).toNat
          written := []
          writeLba := lbaAddress reg }
      else { history with latest := none }
  | .dataIn => { history with wordsRead := history.wordsRead + 1 }
  | .dataOut val =>
      { history with written := history.written ++ [val] }

def observe (cont : AtaController) (input : HostCalls × Access)
    (_ : Response) (history : History) : History :=
  history.after cont.currDev.reg (eventOf cont input.2)

/-- Some word of the latest data command is still to be transferred. -/
def Pending (history : History) : Prop :=
  match history.latest with
  | none => False
  | some .read => history.wordsRead < history.readWords
  | some .write => history.written.length < history.writeWords

end History

/-- The controller with its history. -/
abbrev accessObserved :
    Call (AtaController × History) (HostCalls × Access) Response :=
  observed access History.observe

/-! ## The buffers hold what the history says -/

structure ReadTracks (dev : AtaDev) (history : History) : Prop where
  allocated : dev.readBuffer.isSome = true ↔ 0 < history.readWords
  length : (dev.readBuffer.getD []).length = 2 * history.readWords
  size : dev.readBufferSize = 2 * history.readWords
  offset : dev.readBufferOffset = 2 * history.wordsRead
  bound : history.wordsRead ≤ history.readWords
  blocks : 256 ∣ history.readWords

structure WriteTracks (dev : AtaDev) (history : History) : Prop where
  buffer :
    dev.writeBuffer =
      if history.writeWords = 0 then none
      else
        some (history.written.flatMap wordBytes ++
          List.replicate
            (2 * (history.writeWords - history.written.length)) 0)
  size : dev.writeBufferSize = 2 * history.writeWords
  offset : dev.writeBufferOffset = 2 * history.written.length
  bound : history.written.length ≤ history.writeWords
  lba : dev.writeBufferLBA = history.writeLba.setWidth 64

structure Tracks (cont : AtaController) (history : History) : Prop where
  fixed : Fixed cont
  read : ReadTracks cont.master history
  write : WriteTracks cont.master history

section Frame

variable {dev next : AtaDev} {history later : History}

theorem ReadTracks.frame (tracks : ReadTracks dev history)
    (buffer : next.readBuffer = dev.readBuffer)
    (offset : next.readBufferOffset = dev.readBufferOffset)
    (size : next.readBufferSize = dev.readBufferSize)
    (words : later.readWords = history.readWords)
    (done : later.wordsRead = history.wordsRead) :
    ReadTracks next later where
  allocated := by
    rw [buffer, words]
    exact tracks.allocated
  length := by
    rw [buffer, words]
    exact tracks.length
  size := by
    rw [size, words]
    exact tracks.size
  offset := by
    rw [offset, done]
    exact tracks.offset
  bound := by
    rw [words, done]
    exact tracks.bound
  blocks := by
    rw [words]
    exact tracks.blocks

theorem WriteTracks.frame (tracks : WriteTracks dev history)
    (buffer : next.writeBuffer = dev.writeBuffer)
    (offset : next.writeBufferOffset = dev.writeBufferOffset)
    (size : next.writeBufferSize = dev.writeBufferSize)
    (lba : next.writeBufferLBA = dev.writeBufferLBA)
    (words : later.writeWords = history.writeWords)
    (written : later.written = history.written)
    (address : later.writeLba = history.writeLba) :
    WriteTracks next later where
  buffer := by
    rw [buffer, words, written]
    exact tracks.buffer
  size := by
    rw [size, words]
    exact tracks.size
  offset := by
    rw [offset, written]
    exact tracks.offset
  bound := by
    rw [words, written]
    exact tracks.bound
  lba := by
    rw [lba, address]
    exact tracks.lba

theorem ReadTracks.of_same (tracks : ReadTracks dev history)
    (same : SameTransfers dev next)
    (words : later.readWords = history.readWords)
    (done : later.wordsRead = history.wordsRead) :
    ReadTracks next later :=
  tracks.frame same.readBuffer same.readOffset same.readSize words done

theorem WriteTracks.of_same (tracks : WriteTracks dev history)
    (same : SameTransfers dev next)
    (words : later.writeWords = history.writeWords)
    (written : later.written = history.written)
    (address : later.writeLba = history.writeLba) :
    WriteTracks next later :=
  tracks.frame same.writeBuffer same.writeOffset same.writeSize
    same.writeLba words written address

theorem Fixed.of_same {cont later : AtaController} (fixed : Fixed cont)
    (master : SameTransfers cont.master later.master)
    (slave : SameTransfers cont.slave later.slave) : Fixed later where
  masterPresent := master.present.trans fixed.masterPresent
  masterDisk := master.type.trans fixed.masterDisk
  slaveAbsent := slave.present.trans fixed.slaveAbsent
  slaveRead := slave.readBuffer.trans fixed.slaveRead
  slaveWrite := slave.writeBuffer.trans fixed.slaveWrite

/-- Only the transfer of the master changed. -/
theorem Fixed.with_master {cont : AtaController} {dev : AtaDev}
    {level : Bool} (fixed : Fixed cont)
    (present : dev.bIsPresent = cont.master.bIsPresent)
    (type : dev.type = cont.master.type) :
    Fixed { cont with master := dev, irq14 := level } where
  masterPresent := present.trans fixed.masterPresent
  masterDisk := type.trans fixed.masterDisk
  slaveAbsent := fixed.slaveAbsent
  slaveRead := fixed.slaveRead
  slaveWrite := fixed.slaveWrite

end Frame

/-! ## Bounds in words -/

section Words

variable {dev : AtaDev} {history : History}

theorem ReadTracks.inside_iff (tracks : ReadTracks dev history) :
    insideBuffer dev.readBuffer dev.readBufferOffset ↔
      history.wordsRead < history.readWords := by
  have allocated := tracks.allocated
  unfold insideBuffer
  rw [tracks.length, tracks.offset]
  constructor
  · intro inside
    have upper := inside.2.2
    push_cast at upper
    omega
  · intro pending
    refine ⟨allocated.mpr (by omega), by omega, ?_⟩
    push_cast
    omega

/-- The allocated size of the write buffer. -/
theorem WriteTracks.length (tracks : WriteTracks dev history) :
    (dev.writeBuffer.getD []).length = 2 * history.writeWords := by
  have bound := tracks.bound
  rw [tracks.buffer]
  split
  · rename_i none
    simp [none]
  · simp only [Option.getD_some, List.length_append,
      flatMap_wordBytes_length, List.length_replicate]
    omega

theorem WriteTracks.allocated (tracks : WriteTracks dev history) :
    dev.writeBuffer.isSome = true ↔ 0 < history.writeWords := by
  rw [tracks.buffer]
  split
  · rename_i none
    simp [none]
  · rename_i some
    simp
    omega

theorem WriteTracks.inside_iff (tracks : WriteTracks dev history) :
    insideBuffer dev.writeBuffer dev.writeBufferOffset ↔
      history.written.length < history.writeWords := by
  have allocated := tracks.allocated
  unfold insideBuffer
  rw [tracks.length, tracks.offset]
  constructor
  · intro inside
    have upper := inside.2.2
    push_cast at upper
    omega
  · intro pending
    refine ⟨allocated.mpr (by omega), by omega, ?_⟩
    push_cast
    omega

/-- The stored words, the new one behind them. -/
theorem WriteTracks.stored (tracks : WriteTracks dev history)
    (val : Uint16)
    (pending : history.written.length < history.writeWords) :
    storeWord (dev.writeBuffer.getD []) dev.writeBufferOffset.toNat val =
      (history.written ++ [val]).flatMap wordBytes ++
        List.replicate
          (2 * (history.writeWords - (history.written.length + 1))) 0 := by
  have more : history.writeWords ≠ 0 := by
    omega
  have rest :
      history.writeWords - history.written.length =
        history.writeWords - (history.written.length + 1) + 1 := by
    omega
  have position :
      dev.writeBufferOffset.toNat =
        (history.written.flatMap wordBytes).length := by
    rw [tracks.offset, flatMap_wordBytes_length]
    omega
  rw [tracks.buffer, if_neg more, Option.getD_some, position, rest,
    storeWord_append, List.flatMap_append, List.flatMap_singleton]

end Words

/-! ## Every access keeps the relation -/

theorem clearedBlock_length {buffer : List Uint8}
    (long : 512 ≤ buffer.length) :
    (clearedBlock buffer).length = buffer.length := by
  simp only [clearedBlock, List.length_append, List.length_replicate,
    List.length_drop]
  omega

theorem readDev_tracks (host : HostCalls) (dev : AtaDev)
    (history : History) :
    ReadTracks (readDev host dev)
      { history with
        latest := some .read
        readWords := 256 * readSectorsCount dev.reg
        wordsRead := 0 } := by
  have positive : 0 < readSectorsCount dev.reg := by
    unfold readSectorsCount
    split
    · decide
    · rename_i nonzero
      have : (dev.reg .sectorCount).toNat ≠ 0 := fun zero =>
        nonzero (BitVec.eq_of_toNat_eq zero)
      omega
  have delivered :=
    HostFile.read_length_le host
      (dev.backingfile.seek host
        (sectorOffset ((readSectorsLba dev.reg).setWidth 64)))
      (readSectorsCount dev.reg * 512)
  refine ⟨?_, ?_, ?_, ?_, ?_, ?_⟩
  · simp only [readDev, Option.isSome_some, true_iff]
    omega
  · simp only [readDev, Option.getD_some, List.length_append,
      List.length_replicate]
    omega
  · simp only [readDev]
    push_cast
    ring
  · rfl
  · exact Nat.zero_le _
  · exact Nat.dvd_mul_right _ _

theorem identifyDev_tracks (dev : AtaDev) (history : History) :
    ReadTracks (identifyDev dev)
      { history with
        latest := some .read, readWords := 256, wordsRead := 0 } := by
  refine ⟨?_, ?_, rfl, rfl, Nat.zero_le _, dvd_rfl⟩
  · simp [identifyDev]
  · simp only [identifyDev, Option.getD_some, flatMap_wordBytes_length,
      Vector.length_toList]

theorem writeDev_tracks (dev : AtaDev) (history : History)
    (nonzero : dev.reg .sectorCount ≠ 0) :
    WriteTracks (writeDev dev)
      { history with
        latest := some .write
        writeWords := 256 * (dev.reg .sectorCount).toNat
        written := []
        writeLba := lbaAddress dev.reg } := by
  have positive : (dev.reg .sectorCount).toNat ≠ 0 := fun zero =>
    nonzero (BitVec.eq_of_toNat_eq zero)
  refine ⟨?_, ?_, rfl, Nat.zero_le _, rfl⟩
  · rw [if_neg (by
      simp only
      omega)]
    simp only [writeDev, List.flatMap_nil, List.nil_append,
      List.length_nil, Nat.sub_zero]
    congr 2
    omega
  · simp only [writeDev]
    push_cast
    ring

theorem withCommand_sectorCount (dev : AtaDev) (cmd : Uint8) :
    (withCommand dev cmd).reg .sectorCount = dev.reg .sectorCount := by
  simp [withCommand]

theorem readSectorsCount_withCommand (dev : AtaDev) (cmd : Uint8) :
    readSectorsCount (withCommand dev cmd).reg =
      readSectorsCount dev.reg := by
  unfold readSectorsCount
  rw [withCommand_sectorCount]

theorem lbaAddress_withCommand (dev : AtaDev) (cmd : Uint8) :
    lbaAddress (withCommand dev cmd).reg = lbaAddress dev.reg := by
  simp [lbaAddress, withCommand]

theorem storedDev_tracks {dev : AtaDev} {history : History}
    (tracks : WriteTracks dev history) (val : Uint16)
    (pending : history.written.length < history.writeWords) :
    WriteTracks (storedDev dev val)
      { history with written := history.written ++ [val] } where
  buffer := by
    have more : history.writeWords ≠ 0 := by
      omega
    rw [if_neg more, List.length_append, List.length_singleton,
      ← tracks.stored val pending]
    rfl
  size := tracks.size
  offset := by
    have offset := tracks.offset
    simp only [storedDev, List.length_append, List.length_singleton]
    push_cast
    omega
  bound := by
    simp only [List.length_append, List.length_singleton]
    omega
  lba := tracks.lba

theorem startedRead_tracks {cont : AtaController} (host : HostCalls)
    (history : History) (selected : cont.pCurrDev = .master) :
    ReadTracks
      (readDev host (withCommand cont.master cmdReadSectorsCode))
      (history.after cont.currDev.reg (.command cmdReadSectorsCode)) := by
  have tracks :=
    readDev_tracks host (withCommand cont.master cmdReadSectorsCode)
      history
  rw [readSectorsCount_withCommand] at tracks
  rw [currDev_of_master selected]
  exact tracks

theorem startedWrite_tracks {cont : AtaController} (history : History)
    (selected : cont.pCurrDev = .master)
    (nonzero : cont.master.reg .sectorCount ≠ 0) :
    WriteTracks (writeDev (withCommand cont.master cmdWriteSectorsCode))
      (history.after cont.currDev.reg (.command cmdWriteSectorsCode)) := by
  have given :
      (withCommand cont.master cmdWriteSectorsCode).reg .sectorCount ≠
        0 := by
    rw [withCommand_sectorCount]
    exact nonzero
  have tracks := writeDev_tracks _ history given
  rw [withCommand_sectorCount, lbaAddress_withCommand] at tracks
  rw [currDev_of_master selected]
  exact tracks

/-- A reset clears the first sector of the buffer and keeps its length. -/
theorem ReadTracks.cleared {dev : AtaDev} {history : History}
    {buffer : List Uint8} {regs : Regs}
    (tracks : ReadTracks dev history)
    (allocated : dev.readBuffer = some buffer)
    (long : 512 ≤ buffer.length) :
    ReadTracks
      { dev with readBuffer := some (clearedBlock buffer), reg := regs }
      { history with latest := none } where
  allocated := by
    have before := tracks.allocated
    rw [allocated] at before
    exact before
  length := by
    have length := tracks.length
    rw [allocated, Option.getD_some] at length
    rw [Option.getD_some, clearedBlock_length long]
    exact length
  size := tracks.size
  offset := tracks.offset
  bound := tracks.bound
  blocks := tracks.blocks

/-- A word of the sectors is read. -/
theorem ReadTracks.advanced {dev : AtaDev} {history : History}
    {regs : Regs} (tracks : ReadTracks dev history)
    (pending : history.wordsRead < history.readWords) :
    ReadTracks
      { dev with
        readBufferOffset := dev.readBufferOffset + 2, reg := regs }
      { history with wordsRead := history.wordsRead + 1 } where
  allocated := tracks.allocated
  length := tracks.length
  size := tracks.size
  offset := by
    have offset := tracks.offset
    push_cast
    omega
  bound := pending
  blocks := tracks.blocks

theorem Fixed.of_access {cont next : AtaController} {host : HostCalls}
    {guest : Access} {response : Response} (fixed : Fixed cont)
    (called : access cont (host, guest) = .ok (response, next)) :
    Fixed next := by
  have served := served_of_access fixed called
  generalize eventOf cont guest = event at served
  cases served with
  | register master _ slave => exact fixed.of_same master slave
  | nonData _ _ _ _ same _ slave =>
      exact fixed.of_same same (slave ▸ .refl _)
  | reset => exact fixed.with_master rfl rfl
  | readSectors => exact fixed.with_master rfl rfl
  | identify => exact fixed.with_master rfl rfl
  | writeSectors => exact fixed.with_master rfl rfl
  | dataIn => exact fixed.with_master rfl rfl
  | dataOut => exact fixed.with_master rfl rfl
  | commit => exact fixed.with_master rfl rfl

/-- Every access that returns keeps the relation. -/
theorem Tracks.step {cont next : AtaController} {history : History}
    {host : HostCalls} {guest : Access} {response : Response}
    (tracks : Tracks cont history)
    (called : access cont (host, guest) = .ok (response, next)) :
    Tracks next
      (history.after cont.currDev.reg (eventOf cont guest)) := by
  obtain ⟨fixed, read, write⟩ := tracks
  have fixedNext := fixed.of_access called
  have served := served_of_access fixed called
  generalize eventOf cont guest = event at served
  cases served with
  | register master _ slave =>
      exact ⟨fixedNext, read.of_same master rfl rfl,
        write.of_same master rfl rfl rfl⟩
  | reset _ allocated long =>
      exact ⟨fixedNext, read.cleared allocated long,
        write.frame rfl rfl rfl rfl rfl rfl rfl⟩
  | @nonData cmd next selected notRead notWrite notIdentify same _
      slave =>
      have unchanged :
          history.after cont.currDev.reg (.command cmd) =
            { history with latest := none } := by
        simp [History.after, notRead, notWrite, notIdentify]
      rw [unchanged]
      exact ⟨fixedNext,
        read.of_same same rfl rfl, write.of_same same rfl rfl rfl⟩
  | readSectors selected =>
      exact ⟨fixedNext, startedRead_tracks host history selected,
        write.frame rfl rfl rfl rfl rfl rfl rfl⟩
  | identify selected =>
      exact ⟨fixedNext, identifyDev_tracks _ history,
        write.frame rfl rfl rfl rfl rfl rfl rfl⟩
  | writeSectors selected _ count =>
      exact ⟨fixedNext, read.frame rfl rfl rfl rfl rfl,
        startedWrite_tracks history selected count⟩
  | dataIn selected inside =>
      have pending := read.inside_iff.mp inside
      exact ⟨fixedNext, read.advanced pending,
        write.frame rfl rfl rfl rfl rfl rfl rfl⟩
  | @dataOut val selected inside _ =>
      have pending := write.inside_iff.mp inside
      exact ⟨fixedNext, read.frame rfl rfl rfl rfl rfl,
        storedDev_tracks write val pending⟩
  | @commit val selected inside _ =>
      have pending := write.inside_iff.mp inside
      exact ⟨fixedNext, read.frame rfl rfl rfl rfl rfl,
        (storedDev_tracks write val pending).frame
          rfl rfl rfl rfl rfl rfl rfl⟩

/-- The relation, for the controller with its history. -/
def Related (state : AtaController × History) : Prop :=
  Tracks state.1 state.2

theorem related_step
    {state next : AtaController × History} {input : HostCalls × Access}
    {response : Response} (related : Related state)
    (called : accessObserved state input = .ok (response, next)) :
    Related next := by
  obtain ⟨cont, history⟩ := state
  obtain ⟨after, later⟩ := next
  obtain ⟨host, guest⟩ := input
  obtain ⟨served, rfl⟩ := observed_eq_ok_iff.mp called
  exact Tracks.step related served

theorem related_init (image : List Uint8) :
    Related (x86AtaInit image, History.start) where
  fixed := ⟨rfl, rfl, rfl, rfl, rfl⟩
  read :=
    ⟨iff_of_false Bool.false_ne_true (Nat.lt_irrefl 0), rfl, rfl, rfl,
      Nat.le_refl 0, Nat.dvd_zero 256⟩
  write := ⟨rfl, rfl, rfl, Nat.le_refl 0, rfl⟩

/-- The relation holds after every run from the initial state. -/
theorem related_of_run {image : List Uint8}
    {inputs : List (HostCalls × Access)} {responses : List Response}
    {final : AtaController × History}
    (ran : run accessObserved (x86AtaInit image, History.start) inputs =
      .ok (responses, final)) :
    Related final :=
  run_invariant related_step (related_init image) ran

/-- The devices, without the history. -/
theorem fixed_of_run {image : List Uint8}
    {inputs : List (HostCalls × Access)} {responses : List Response}
    {final : AtaController}
    (ran : run access (x86AtaInit image) inputs = .ok (responses, final)) :
    Fixed final := by
  have preserved : ∀ {cont next : AtaController}
      {input : HostCalls × Access} {response : Response},
      Fixed cont → access cont input = .ok (response, next) →
        Fixed next :=
    fun fixed called => fixed.of_access called
  exact run_invariant preserved (related_init image).fixed ran

end Kvmulate.Ata
