import Kvmulate.Ata.Transfers
import Kvmulate.Lib.Expansion

/-!
# The words that are still to be read

READ SECTORS copies the sectors into the buffer of the device.  Whatever the
guest does next, the words come out of that copy in order, each one once, until
the buffer is filled anew or reset.
-/

namespace Kvmulate.Ata

open DeviceLib

/-- The words of the buffer from the offset on. -/
def AtaDev.unread (dev : AtaDev) : List Uint16 :=
  windowWords (dev.readBuffer.getD []) dev.readBufferOffset.toNat
    ((dev.readBufferSize - dev.readBufferOffset).toNat / 2)

/-- The access gives the present device a command that fills its buffer, or a
soft reset. -/
def Refills (cont : AtaController) (guest : Access) : Prop :=
  eventOf cont guest = .command cmdReadSectorsCode ∨
    eventOf cont guest = .command cmdIdentifyDeviceCode ∨
      eventOf cont guest = .reset

/-- Some history of the controller explains its buffers. -/
def Tracked (cont : AtaController) : Prop :=
  ∃ history, Tracks cont history

section Step

variable {cont next : AtaController} {host : HostCalls} {guest : Access}
variable {response : Response}

theorem Tracked.step (tracked : Tracked cont)
    (called : access cont (host, guest) = .ok (response, next)) :
    Tracked next := by
  obtain ⟨history, tracks⟩ := tracked
  exact ⟨_, tracks.step called⟩

theorem tracked_init (image : List Uint8) :
    Tracked (x86AtaInit image) :=
  ⟨History.start, related_init image⟩

theorem unread_of_same {dev later : AtaDev}
    (same : SameTransfers dev later) : later.unread = dev.unread := by
  unfold AtaDev.unread
  rw [same.readBuffer, same.readOffset, same.readSize]

/-- The words of an announced transfer, counted as the history does. -/
theorem unread_of_tracks {dev : AtaDev} {history : History}
    (tracks : ReadTracks dev history) :
    dev.unread =
      windowWords (dev.readBuffer.getD []) (2 * history.wordsRead)
        (history.readWords - history.wordsRead) := by
  have bound := tracks.bound
  have offset : dev.readBufferOffset.toNat = 2 * history.wordsRead := by
    rw [tracks.offset]
    omega
  have left :
      (dev.readBufferSize - dev.readBufferOffset).toNat / 2 =
        history.readWords - history.wordsRead := by
    rw [tracks.offset, tracks.size]
    omega
  unfold AtaDev.unread
  rw [offset, left]

/-- A read takes the first of the words. -/
theorem unread_of_inside {dev : AtaDev} {history : History} {reg : Regs}
    (tracks : ReadTracks dev history)
    (inside : insideBuffer dev.readBuffer dev.readBufferOffset) :
    dev.unread =
      loadWord (dev.readBuffer.getD []) dev.readBufferOffset.toNat ::
        { dev with
          readBufferOffset := dev.readBufferOffset + 2
          reg := reg : AtaDev }.unread := by
  have pending := tracks.inside_iff.mp inside
  have offset : dev.readBufferOffset.toNat = 2 * history.wordsRead := by
    rw [tracks.offset]
    omega
  have count : history.readWords - history.wordsRead =
      1 + (history.readWords - (history.wordsRead + 1)) := by
    omega
  rw [unread_of_tracks tracks,
    unread_of_tracks (tracks.advanced pending), count, windowWords_add,
    offset]
  rfl

/-- Only the data port delivers words. -/
theorem dataWords_of_register
    (register : eventOf cont guest = .register)
    (called : access cont (host, guest) = .ok (response, next)) :
    dataWords [response] = [] := by
  cases guest with
  | outb address val =>
      obtain ⟨after, -, built⟩ := Outcome.bind_eq_ok_iff.mp called
      cases built
      rfl
  | inb address =>
      obtain ⟨read, -, built⟩ := Outcome.bind_eq_ok_iff.mp called
      cases built
      rfl
  | outw => cases register
  | inw => cases register

/-- An access delivers the next of the words, or none, and leaves the rest. -/
theorem unread_step (tracked : Tracked cont)
    (keeps : ¬ Refills cont guest)
    (called : access cont (host, guest) = .ok (response, next)) :
    cont.master.unread = dataWords [response] ++ next.master.unread := by
  obtain ⟨history, tracks⟩ := tracked
  have served := served_of_access tracks.fixed called
  have register := @dataWords_of_register cont next host guest response
  unfold Refills at keeps
  generalize eventOf cont guest = event at served keeps register
  cases served with
  | register master _ _ =>
      rw [register rfl called, unread_of_same master]
      rfl
  | reset => exact absurd (.inr (.inr rfl)) keeps
  | nonData _ _ _ _ same =>
      rw [unread_of_same same]
      rfl
  | readSectors => exact absurd (.inl rfl) keeps
  | identify => exact absurd (.inr (.inl rfl)) keeps
  | writeSectors => rfl
  | dataIn _ inside => exact unread_of_inside tracks.read inside
  | dataOut => rfl
  | commit => rfl

end Step

section Run

variable {cont final : AtaController}
variable {inputs : List (HostCalls × Access)} {responses : List Response}

/-- No word is lost, delivered twice or changed. -/
theorem unread_run (tracked : Tracked cont)
    (keeps : StepsMeet access
      (fun cont (input : HostCalls × Access) => ¬ Refills cont input.2)
      cont inputs)
    (ran : run access cont inputs = .ok (responses, final)) :
    cont.master.unread = dataWords responses ++ final.master.unread := by
  induction inputs generalizing cont responses with
  | nil =>
      cases ran
      rfl
  | cons input rest inductionHypothesis =>
      obtain ⟨response, next, others, called, ranRest, rfl⟩ :=
        run_cons_eq_ok_iff.mp ran
      obtain ⟨host, guest⟩ := input
      have later := inductionHypothesis (tracked.step called)
        (keeps.2 response next called) ranRest
      have split : response :: others = [response] ++ others := rfl
      rw [unread_step tracked keeps.1 called, later, split,
        dataWords_append, List.append_assoc]

theorem tracked_run (tracked : Tracked cont)
    (ran : run access cont inputs = .ok (responses, final)) :
    Tracked final := by
  refine @run_invariant _ _ _ access Tracked ?_ _ _ _ _ tracked ran
  intro state input response next holds called
  exact holds.step called

/-- A data word can be read as long as one is left. -/
theorem inw_returns_iff (tracked : Tracked cont) (host : HostCalls)
    (selected : cont.pCurrDev = .master) :
    (∃ response next, access cont (host, .inw 0) = .ok (response, next)) ↔
      cont.master.unread ≠ [] := by
  obtain ⟨history, tracks⟩ := tracked
  have counted : cont.master.unread.length =
      history.readWords - history.wordsRead := by
    rw [unread_of_tracks tracks.read, windowWords_length]
  constructor
  · rintro ⟨response, next, called⟩ none
    obtain ⟨read, called, -⟩ := Outcome.bind_eq_ok_iff.mp called
    obtain ⟨-, inside, -⟩ :=
      (@pioInw_eq_ok_iff cont read.2 0 read.1 selected).mp called
    have pending := tracks.read.inside_iff.mp inside
    rw [none, List.length_nil] at counted
    omega
  · intro some
    have positive := List.length_pos_iff.mpr some
    exact ⟨_, _, access_inw host tracks selected (by omega)⟩

theorem inw_eq_ok {host : HostCalls} {word : Uint16}
    {rest : List Uint16} (tracked : Tracked cont)
    (selected : cont.pCurrDev = .master)
    (left : cont.master.unread = word :: rest) :
    ∃ next, access cont (host, .inw 0) = .ok (.word word, next) ∧
      next.pCurrDev = .master ∧ next.master.unread = rest := by
  have some : cont.master.unread ≠ [] := by
    rw [left]
    exact List.cons_ne_nil _ _
  obtain ⟨response, next, called⟩ :=
    (inw_returns_iff tracked host selected).mpr some
  have taken := unread_step tracked
    (by simp [Refills, eventOf] : ¬ Refills cont (.inw 0)) called
  obtain ⟨⟨val, after⟩, read, built⟩ := Outcome.bind_eq_ok_iff.mp called
  cases built
  obtain ⟨-, -, -, built⟩ := (pioInw_eq_ok_iff selected).mp read
  rw [left] at taken
  obtain ⟨same, others⟩ := List.cons.inj taken
  refine ⟨next, ?_, ?_, others.symm⟩
  · rw [same]
    exact called
  · rw [built]
    exact selected

/-- Reading words in a row takes as many of those that are left. -/
theorem run_inw {hosts : List HostCalls} (tracked : Tracked cont)
    (selected : cont.pCurrDev = .master)
    (enough : hosts.length ≤ cont.master.unread.length) :
    ∃ final,
      run access cont (hosts.map fun host => (host, .inw 0)) =
          .ok ((cont.master.unread.take hosts.length).map .word, final) ∧
        final.pCurrDev = .master ∧
          final.master.unread = cont.master.unread.drop hosts.length := by
  induction hosts generalizing cont with
  | nil => exact ⟨cont, rfl, selected, rfl⟩
  | cons host others inductionHypothesis =>
      cases left : cont.master.unread with
      | nil =>
          rw [left] at enough
          cases enough
      | cons word rest =>
          obtain ⟨next, called, still, remaining⟩ :=
            @inw_eq_ok _ host _ _ tracked selected left
          rw [left, List.length_cons, List.length_cons] at enough
          obtain ⟨final, ran, ends, last⟩ :=
            inductionHypothesis (tracked.step called) still
              (by rw [remaining]; omega)
          rw [remaining] at ran last
          exact ⟨final, run_cons called ran, ends, last⟩

/-- No more words can be read than are left. -/
theorem run_inw_iff {hosts : List HostCalls} (tracked : Tracked cont)
    (selected : cont.pCurrDev = .master) :
    (∃ responses final,
        run access cont (hosts.map fun host => (host, .inw 0)) =
          .ok (responses, final)) ↔
      hosts.length ≤ cont.master.unread.length := by
  constructor
  · rintro ⟨responses, final, ran⟩
    induction hosts generalizing cont responses with
    | nil => exact Nat.zero_le _
    | cons host others inductionHypothesis =>
        obtain ⟨response, next, later, called, ranRest, -⟩ :=
          run_cons_eq_ok_iff.mp ran
        cases left : cont.master.unread with
        | nil =>
            exact absurd left
              ((inw_returns_iff tracked host selected).mp
                ⟨response, next, called⟩)
        | cons word rest =>
            obtain ⟨after, same, still, remaining⟩ :=
              @inw_eq_ok _ host _ _ tracked selected left
            rw [called] at same
            cases same
            have fewer :=
              inductionHypothesis (tracked.step called) still _ ranRest
            rw [remaining] at fewer
            exact Nat.succ_le_succ fewer
  · intro enough
    obtain ⟨final, ran, -⟩ := run_inw tracked selected enough
    exact ⟨_, final, ran⟩

end Run

/-! ## After READ SECTORS -/

section Filled

variable {cont next : AtaController} {response : Response}

/-- The command copies the sectors that the task file announces. -/
theorem unread_of_readSectors (tracked : Tracked cont)
    (selected : cont.pCurrDev = .master)
    (called : access cont
        (HostCalls.full, .outb portWCommand cmdReadSectorsCode) =
      .ok (response, next)) :
    next.master.unread =
      (diskOf cont).read (readSectorsLba cont.master.reg).toNat
        (announcedSectors (cont.master.reg .sectorCount)) := by
  obtain ⟨history, tracks⟩ := tracked
  have started := access_readSectors HostCalls.full tracks.fixed selected
  rw [called] at started
  cases started
  have read :=
    startedRead_tracks HostCalls.full history selected
  have counted :
      readSectorsCount (withCommand cont.master cmdReadSectorsCode).reg =
        announcedSectors (cont.master.reg .sectorCount) :=
    readSectorsCount_withCommand cont.master cmdReadSectorsCode
  have addressed :
      readSectorsLba (withCommand cont.master cmdReadSectorsCode).reg =
        readSectorsLba cont.master.reg := by
    simp [readSectorsLba, isLba, lbaAddress, chsCylinder, chsHead,
      chsSector, withCommand]
  have offset :
      readSectorsOffset
          (withCommand cont.master cmdReadSectorsCode).reg =
        512 * (readSectorsLba cont.master.reg).toNat := by
    rw [readSectorsOffset, addressed, sectorOffset_setWidth]
  change (readDev HostCalls.full
    (withCommand cont.master cmdReadSectorsCode)).unread = _
  have later :
      history.after cont.currDev.reg (.command cmdReadSectorsCode) =
        { history with
          latest := some .read
          readWords :=
            256 * announcedSectors (cont.master.reg .sectorCount)
          wordsRead := 0 } := by
    rw [currDev_of_master selected]
    rfl
  rw [later] at read
  rw [unread_of_tracks read, readDev_window, counted, offset, diskOf,
    Disk.read_ofBytes]
  refine List.map_congr_left fun index mem => ?_
  have inside := List.mem_range.mp mem
  simp only [Nat.mul_zero, Nat.zero_add, Nat.sub_zero] at inside ⊢
  exact loadWord_window _ (by omega)

end Filled

end Kvmulate.Ata
