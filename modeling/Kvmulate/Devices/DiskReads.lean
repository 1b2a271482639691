import Kvmulate.Ata.Snapshot
import Kvmulate.Devices.Alone
import Kvmulate.System.Vcpu

/-!
# Reading the disk through the machine

What READ SECTORS delivers to the guest, word by word or by string
instructions, while all other devices are used at the same time.
-/

namespace Kvmulate.Devices

open DeviceLib Kvmulate.Io Kvmulate.System

/-! ## The words of the disk -/

def wordOf : Vga.VideoResponse → Option Uint16
  | .data (.word val) => some val
  | _ => none

/-- The words that the disk controller delivers in a run of the machine. -/
def diskWords (given : List DeviceStep)
    (delivered : List Vga.VideoResponse) : List Uint16 :=
  (ataAlone.responses given delivered).filterMap wordOf

/-- No command of the run fills the buffer of the disk or resets it. -/
def KeepsBuffer (machine : Machine) (step : DeviceStep) : Prop :=
  ∀ own, ataAlone.takes step = some own → ¬ Ata.Refills machine.ata own.2

section Reads

variable {machine next final : Machine} {given : List DeviceStep}
variable {delivered : List Vga.VideoResponse}

theorem filterMap_wordOf (answers : List Ata.Response) :
    (answers.map ataAlone.shows).filterMap wordOf =
      Ata.dataWords answers := by
  unfold Ata.dataWords
  rw [List.filterMap_map]
  refine congrFun (congrArg _ (funext fun answer => ?_)) answers
  cases answer with
  | none => rfl
  | byte val => rfl
  | word val => rfl

theorem tracked_start {around : Surroundings}
    (start : Machine.start around = .ok machine) :
    Ata.Tracked machine.ata := by
  rw [(started_of_start start).ata]
  exact Ata.tracked_init around.hddImage

theorem tracked_of_run (tracked : Ata.Tracked machine.ata)
    (ran : run deviceStep machine given = .ok (delivered, final)) :
    Ata.Tracked final.ata := by
  obtain ⟨answers, ranAta, -⟩ :=
    @Component.runsAlone_of_run _ _ _ _ _ _ _ _ ataAlone _ _ _ _ ran
  exact Ata.tracked_run tracked ranAta

/-- Whatever else the machine does, the buffer is read word by word. -/
theorem unread_of_run (tracked : Ata.Tracked machine.ata)
    (keeps : StepsMeet deviceStep KeepsBuffer machine given)
    (ran : run deviceStep machine given = .ok (delivered, final)) :
    machine.ata.master.unread =
      diskWords given delivered ++ final.ata.master.unread := by
  obtain ⟨answers, ranAta, shown⟩ :=
    @Component.runsAlone_of_run _ _ _ _ _ _ _ _ ataAlone _ _ _ _ ran
  have met :=
    @Component.stepsMeet_part _ _ _ _ _ _ _ _ ataAlone _
      (fun cont (input : HostCalls × Ata.Access) =>
        ¬ Ata.Refills cont input.2) _ _ _ keeps ran
  unfold diskWords
  rw [← shown, filterMap_wordOf]
  exact Ata.unread_run tracked met ranAta

/-- The command in the machine. -/
theorem readSectors_port {host : Host} {response : Vga.VideoResponse}
    (issued : deviceStep machine (.port host (.outb 0x1F7 0x20)) =
      .ok (response, next)) :
    ∃ answer,
      Ata.access machine.ata
          (host.calls, .outb Ata.portWCommand Ata.cmdReadSectorsCode) =
        .ok (answer, next.ata) := by
  obtain ⟨answer, after, called, -, rfl⟩ :=
    (@Component.serves_eq_ok_iff _ _ _ _ _ _ _ _ ataAlone machine next
      (.port host (.outb 0x1F7 0x20))
      (host.calls, .outb Ata.portWCommand Ata.cmdReadSectorsCode)
      response rfl).mp issued
  exact ⟨answer, called⟩

theorem ata_takes_inw {host : Host} :
    ataAlone.takes (.port host (.inw 0x1F0)) =
      some (host.calls, .inw 0) := rfl

end Reads

section Snapshot

variable {around : Surroundings} {first machine next final : Machine}
variable {before later : List DeviceStep}
variable {earlier delivered : List Vga.VideoResponse}
variable {host : Host} {response : Vga.VideoResponse}

theorem unread_after_readSectors
    (start : Machine.start around = .ok first)
    (reached : run deviceStep first before = .ok (earlier, machine))
    (selected : machine.ata.pCurrDev = .master)
    (full : host.calls = HostCalls.full)
    (issued : deviceStep machine (.port host (.outb 0x1F7 0x20)) =
      .ok (response, next)) :
    Ata.Tracked next.ata ∧
      next.ata.master.unread =
        (Ata.diskOf machine.ata).read
          (Ata.readSectorsLba machine.ata.master.reg).toNat
          (Ata.announcedSectors
            (machine.ata.master.reg .sectorCount)) := by
  have tracked := tracked_of_run (tracked_start start) reached
  obtain ⟨answer, called⟩ := readSectors_port issued
  rw [full] at called
  exact ⟨tracked.step called,
    Ata.unread_of_readSectors tracked selected called⟩

/-- READ SECTORS takes a snapshot: however the accesses to the disk are
interleaved with those to all other devices, with register accesses and with
the commits of an earlier write, the words that the guest reads and those that
are left make up the sectors as they were at the command. -/
theorem readSectors_snapshot
    (start : Machine.start around = .ok first)
    (reached : run deviceStep first before = .ok (earlier, machine))
    (selected : machine.ata.pCurrDev = .master)
    (full : host.calls = HostCalls.full)
    (issued : deviceStep machine (.port host (.outb 0x1F7 0x20)) =
      .ok (response, next))
    (keeps : StepsMeet deviceStep KeepsBuffer next later)
    (ran : run deviceStep next later = .ok (delivered, final)) :
    diskWords later delivered ++ final.ata.master.unread =
      (Ata.diskOf machine.ata).read
        (Ata.readSectorsLba machine.ata.master.reg).toNat
        (Ata.announcedSectors (machine.ata.master.reg .sectorCount)) := by
  obtain ⟨tracked, filled⟩ :=
    unread_after_readSectors start reached selected full issued
  rw [← filled]
  exact (unread_of_run tracked keeps ran).symm

/-- The command is accepted from the start on. -/
theorem exists_readSectors_bare :
    ∃ machine next, Machine.start bare = .ok machine ∧
      machine.ata.pCurrDev = .master ∧ next.ata.pCurrDev = .master ∧
        deviceStep machine (.port Host.atNoon (.outb 0x1F7 0x20)) =
          .ok (.data .none, next) := by
  obtain ⟨machine, start⟩ := exists_start_bare
  have ata := (started_of_start start).ata
  have selected : machine.ata.pCurrDev = .master := by
    rw [ata]
    rfl
  have fixed : Ata.Fixed machine.ata := by
    rw [ata]
    exact (Ata.related_init []).fixed
  have called := Ata.access_readSectors HostCalls.full fixed selected
  have issued := (@Component.serves_eq_ok_iff _ _ _ _ _ _ _ _ ataAlone
    machine _ (.port Host.atNoon (.outb 0x1F7 0x20))
    (HostCalls.full, .outb Ata.portWCommand Ata.cmdReadSectorsCode)
    (.data .none) rfl).mpr ⟨_, _, called, rfl, rfl⟩
  refine ⟨machine, _, start, selected, ?_, issued⟩
  exact selected

/-- A key is pressed before the first word is read. -/
theorem readSectors_snapshot_key :
    ∃ machine next final delivered, Machine.start bare = .ok machine ∧
      run deviceStep next
          [.key 0x1E true, .port Host.atNoon (.inw 0x1F0)] =
        .ok (delivered, final) ∧
      diskWords [.key 0x1E true, .port Host.atNoon (.inw 0x1F0)]
          delivered ++ final.ata.master.unread =
        (Ata.diskOf machine.ata).read
          (Ata.readSectorsLba machine.ata.master.reg).toNat
          (Ata.announcedSectors
            (machine.ata.master.reg .sectorCount)) := by
  obtain ⟨machine, next, start, selected, still, issued⟩ :=
    exists_readSectors_bare
  have nothing : run deviceStep machine [] = .ok ([], machine) := rfl
  obtain ⟨tracked, filled⟩ :=
    unread_after_readSectors start nothing selected rfl issued
  have pressed : deviceStep next (.key 0x1E true) =
      .ok (.data .none,
        { next with kbd := Keyboard.kbdInject next.kbd 0x1E true }) := rfl
  have some : next.ata.master.unread ≠ [] := by
    intro none
    rw [none, Ata.diskOf, Disk.read_ofBytes] at filled
    have length := congrArg List.length filled
    have positive := Ata.announcedSectors_pos
      (machine.ata.master.reg .sectorCount)
    rw [windowWords_length, List.length_nil] at length
    omega
  obtain ⟨answer, after, read⟩ :=
    (Ata.inw_returns_iff tracked HostCalls.full still).mpr some
  have word := (@Component.serves_eq_ok_iff _ _ _ _ _ _ _ _ ataAlone
    { next with kbd := Keyboard.kbdInject next.kbd 0x1E true } _
    (.port Host.atNoon (.inw 0x1F0)) (HostCalls.full, .inw 0) _
    rfl).mpr ⟨answer, after, read, rfl, rfl⟩
  have ran := run_cons pressed (run_one word)
  have kept : KeepsBuffer
      { next with kbd := Keyboard.kbdInject next.kbd 0x1E true }
      (.port Host.atNoon (.inw 0x1F0)) := by
    intro own taken
    cases ata_takes_inw.symm.trans taken
    simp [Ata.Refills, Ata.eventOf]
  have keeps : StepsMeet deviceStep KeepsBuffer next
      [.key 0x1E true, .port Host.atNoon (.inw 0x1F0)] :=
    (stepsMeet_cons_iff pressed).mpr
      ⟨fun _ taken => (by cases taken), kept, fun _ _ _ => trivial⟩
  exact ⟨machine, next, _, _, start, ran,
    readSectors_snapshot start nothing selected rfl issued keeps ran⟩

end Snapshot

/-! ## String instructions -/

/-- An exit for REP INSW from the data port. -/
structure Insw (pStat : KvmRun) : Prop where
  io : pStat.exitReason = kvmExitIo
  input : pStat.direction ≠ kvmExitIoOut
  size : pStat.size = 2
  port : pStat.port = 0x1F0

theorem leBytes_word (word : Uint16) : leBytes 2 word = wordBytes word := by
  change [(word >>> 0).setWidth 8, (word >>> 8).setWidth 8] = _
  rw [BitVec.ushiftRight_zero]
  rfl

theorem flatMap_dataBytes (words : List Uint16) :
    (words.map IoData.word).flatMap dataBytes =
      words.flatMap wordBytes := by
  rw [List.flatMap_map]
  refine congrArg (List.flatMap · words) (funext fun word => ?_)
  exact leBytes_word word

section Insw

variable {hosts : Hosts} {pStat after : KvmRun} {machine next : Machine}

/-- The words of the exit, each read under its host. -/
def inswSteps (hosts : Hosts) (count : Nat) : List DeviceStep :=
  (List.range count).map fun index => .port (hosts index) (.inw 0x1F0)

/-- What the host calls do during the words of the exit. -/
def inswCalls (hosts : Hosts) (count : Nat) : List HostCalls :=
  (List.range count).map fun index => (hosts index).calls

theorem length_inswCalls (count : Nat) :
    (inswCalls hosts count).length = count := by
  simp [inswCalls]

theorem exitSteps_insw (insw : Insw pStat) :
    exitSteps (hosts, pStat) = inswSteps hosts pStat.count.toNat := by
  have access : inAccess pStat.size pStat.port = .inw 0x1F0 := by
    rw [insw.size, insw.port]
    rfl
  refine (if_pos insw.io).trans ?_
  unfold KvmRun.accesses KvmRun.inAccesses inswSteps
  rw [if_neg insw.input, access]
  apply List.ext_getElem
  · simp
  · intro index inside bound
    simp

theorem ata_takes_insw : ∀ step ∈ inswSteps hosts pStat.count.toNat,
    (ataAlone.takes step).isSome = true := by
  intro step mem
  obtain ⟨index, -, rfl⟩ := List.mem_map.mp mem
  rfl

theorem inputs_insw (count : Nat) :
    ataAlone.inputs (inswSteps hosts count) =
      (inswCalls hosts count).map fun calls => (calls, .inw 0) := by
  unfold inswSteps inswCalls
  induction List.range count with
  | nil => rfl
  | cons index rest inductionHypothesis =>
      rw [List.map_cons, Component.inputs_cons_of_some ata_takes_inw,
        inductionHypothesis]
      rfl

theorem responses_insw {count : Nat}
    {delivered : List Vga.VideoResponse}
    (sized : delivered.length = count) :
    ataAlone.responses (inswSteps hosts count) delivered = delivered := by
  have range : (List.range count).length = delivered.length := by
    rw [sized, List.length_range]
  unfold inswSteps
  clear sized
  generalize List.range count = indices at range
  induction delivered generalizing indices with
  | nil =>
      rw [List.length_eq_zero_iff.mp range]
      rfl
  | cons response others inductionHypothesis =>
      cases indices with
      | nil => cases range
      | cons index rest =>
          rw [List.map_cons, Component.responses_cons_of_some ata_takes_inw,
            inductionHypothesis rest (Nat.succ.inj range)]

/-- What the steps of the exit deliver. -/
theorem run_insw {responses : List Vga.VideoResponse}
    (insw : Insw pStat) (tracked : Ata.Tracked machine.ata)
    (selected : machine.ata.pCurrDev = .master)
    (ran : run deviceStep machine (exitSteps (hosts, pStat)) =
      .ok (responses, next)) :
    responses =
        (machine.ata.master.unread.take pStat.count.toNat).map
          (fun word => .data (.word word)) ∧
      next.ata.master.unread =
        machine.ata.master.unread.drop pStat.count.toNat := by
  rw [exitSteps_insw insw] at ran
  obtain ⟨answers, ranAta, shown⟩ :=
    @Component.runsAlone_of_run _ _ _ _ _ _ _ _ ataAlone _ _ _ _ ran
  have sized := length_of_run ran
  rw [inswSteps, List.length_map, List.length_range] at sized
  rw [responses_insw sized] at shown
  rw [inputs_insw] at ranAta
  have enough :=
    (Ata.run_inw_iff tracked selected).mp ⟨answers, _, ranAta⟩
  obtain ⟨final, same, -, remaining⟩ :=
    Ata.run_inw tracked selected enough
  change run Ata.access machine.ata _ = _ at ranAta
  rw [ranAta] at same
  obtain ⟨rfl, rfl⟩ := Prod.mk.inj (Except.ok.inj same)
  rw [List.map_map, length_inswCalls] at shown
  rw [length_inswCalls] at remaining
  exact ⟨shown.symm, remaining⟩

theorem length_accesses_insw (insw : Insw pStat) :
    pStat.accesses.length = pStat.count.toNat := by
  unfold KvmRun.accesses KvmRun.inAccesses
  rw [if_neg insw.input, List.length_replicate]

/-- What was stored at the elements is found in the data area. -/
theorem bytes_after {elements : Nat} {stored : List Uint8}
    (area : DataArea pStat elements)
    (sized : stored.length = elements * pStat.size.toNat) :
    (pStat.after elements stored).bytes pStat.dataOffset.toNat
        stored.length = stored := by
  rcases Nat.eq_zero_or_pos elements with none | some
  · rw [none, Nat.zero_mul] at sized
    rw [List.eq_nil_of_length_eq_zero sized]
    rfl
  · have disjoint := area.disjoint some
    unfold KvmRun.after
    rw [KvmRun.bytes_setDataOffset]
    · exact KvmRun.bytes_patch_self
    · rw [sized]
      exact disjoint

/-- The exit can be served as long as the words last. -/
theorem returns_handleExit_insw_iff (insw : Insw pStat)
    (promised : FromKernel (hosts, pStat))
    (tracked : Ata.Tracked machine.ata)
    (selected : machine.ata.pCurrDev = .master) :
    (∃ after next, handleExit machine (hosts, pStat) = .ok (after, next)) ↔
      pStat.count.toNat ≤ machine.ata.master.unread.length := by
  have words := @Ata.run_inw_iff _ (inswCalls hosts pStat.count.toNat) tracked
    selected
  rw [length_inswCalls] at words
  have both :=
    @Component.exists_run_iff _ _ _ _ _ _ _ _ ataAlone machine _
      (@ata_takes_insw hosts pStat)
  rw [inputs_insw] at both
  refine Iff.trans ?_ (both.trans words)
  constructor
  · rintro ⟨after, next, served⟩
    obtain ⟨responses, ran, -⟩ :=
      (handleExit_eq_ok_iff promised).mp served
    rw [exitSteps_insw insw] at ran
    exact ⟨responses, next, ran⟩
  · rintro ⟨delivered, final, ran⟩
    have sized := length_of_run ran
    rw [inswSteps, List.length_map, List.length_range] at sized
    rw [← exitSteps_insw insw] at ran
    obtain ⟨same, -⟩ := run_insw insw tracked selected ran
    rw [same, List.length_map] at sized
    refine ⟨_, final, (handleExit_eq_ok_iff promised).mpr
      ⟨delivered, ran, (exitAnswered_io_iff insw.io).mpr
        ⟨(machine.ata.master.unread.take pStat.count.toNat).map .word,
          ?_, ?_, rfl⟩⟩⟩
    · rw [List.length_map, sized, length_accesses_insw insw]
    · rw [same, List.map_map]
      rfl

/-- It leaves the bytes of the words in the data area. -/
theorem bytes_of_handleExit_insw (insw : Insw pStat)
    (promised : FromKernel (hosts, pStat))
    (tracked : Ata.Tracked machine.ata)
    (selected : machine.ata.pCurrDev = .master)
    (served : handleExit machine (hosts, pStat) = .ok (after, next)) :
    after.bytes pStat.dataOffset.toNat (2 * pStat.count.toNat) =
      (machine.ata.master.unread.take pStat.count.toNat).flatMap
        wordBytes := by
  obtain ⟨responses, ran, answered⟩ :=
    (handleExit_eq_ok_iff promised).mp served
  obtain ⟨same, -⟩ := run_insw insw tracked selected ran
  obtain ⟨delivered, sized, shown, rfl⟩ :=
    (exitAnswered_io_iff insw.io).mp answered
  have words : delivered =
      (machine.ata.master.unread.take pStat.count.toNat).map .word := by
    refine List.map_injective_iff.mpr
      (fun _ _ => Vga.VideoResponse.data.inj) ?_
    rw [← shown, same, List.map_map]
    rfl
  rw [length_accesses_insw insw] at sized
  rw [words, List.length_map] at sized
  rw [words, flatMap_dataBytes]
  have stored := bytes_after (promised insw.io)
    (by
      rw [flatMap_wordBytes_length, sized, insw.size, Nat.mul_comm]
      rfl)
  rw [flatMap_wordBytes_length, sized] at stored
  exact stored

end Insw

/-- A string instruction behind READ SECTORS and any other steps is served as
long as there are words left, and puts the next bytes of the sectors into the
data area. -/
theorem insw_delivers_sectors {around : Surroundings}
    {first machine next final : Machine} {before later : List DeviceStep}
    {earlier delivered : List Vga.VideoResponse}
    {host : Host} {hosts : Hosts} {response : Vga.VideoResponse}
    {pStat : KvmRun}
    (start : Machine.start around = .ok first)
    (reached : run deviceStep first before = .ok (earlier, machine))
    (selected : machine.ata.pCurrDev = .master)
    (full : host.calls = HostCalls.full)
    (issued : deviceStep machine (.port host (.outb 0x1F7 0x20)) =
      .ok (response, next))
    (keeps : StepsMeet deviceStep KeepsBuffer next later)
    (ran : run deviceStep next later = .ok (delivered, final))
    (still : final.ata.pCurrDev = .master)
    (insw : Insw pStat) (promised : FromKernel (hosts, pStat)) :
    ((∃ after ended,
        handleExit final (hosts, pStat) = .ok (after, ended)) ↔
      (diskWords later delivered).length + pStat.count.toNat ≤
        256 * Ata.announcedSectors
          (machine.ata.master.reg .sectorCount)) ∧
    ∀ after ended,
      handleExit final (hosts, pStat) = .ok (after, ended) →
        after.bytes pStat.dataOffset.toNat (2 * pStat.count.toNat) =
          ((((Ata.diskOf machine.ata).read
            (Ata.readSectorsLba machine.ata.master.reg).toNat
            (Ata.announcedSectors
              (machine.ata.master.reg .sectorCount))).drop
                (diskWords later delivered).length).take
                  pStat.count.toNat).flatMap wordBytes := by
  obtain ⟨tracked, filled⟩ :=
    unread_after_readSectors start reached selected full issued
  have split := unread_of_run tracked keeps ran
  have kept := tracked_of_run tracked ran
  rw [filled] at split
  constructor
  · have length := congrArg List.length split
    rw [Ata.diskOf, Disk.read_ofBytes, windowWords_length,
      List.length_append] at length
    rw [returns_handleExit_insw_iff insw promised kept still]
    omega
  · intro after ended served
    rw [bytes_of_handleExit_insw insw promised kept still served, split,
      List.drop_left]

/-- An exit for two words, to offset 64. -/
def twoWords : KvmRun where
  statSz := 4096
  io := 32
  byte := fun index =>
    if index = 8 then 2
    else if index < 32 then 0
    else
      [0, 2, 0xF0, 0x01, 2, 0, 0, 0, 64, 0, 0, 0, 0, 0, 0, 0].getD
        (index - 32) 0
  positive := page_positive
  header := page_header

theorem insw_delivers_sectors_two :
    ∃ machine next after ended, Machine.start bare = .ok machine ∧
      deviceStep machine (.port Host.atNoon (.outb 0x1F7 0x20)) =
        .ok (.data .none, next) ∧
      handleExit next (fun _ => Host.atNoon, twoWords) = .ok (after, ended) := by
  obtain ⟨machine, next, start, selected, still, issued⟩ :=
    exists_readSectors_bare
  have promised : FromKernel (fun _ => Host.atNoon, twoWords) := fun _ =>
    ⟨Or.inr (Or.inl (by decide)), fun _ => by decide,
      fun _ => Or.inr (by decide)⟩
  have positive := Ata.announcedSectors_pos
    (machine.ata.master.reg .sectorCount)
  have nothing : run deviceStep machine [] = .ok ([], machine) := rfl
  have none : run deviceStep next [] = .ok ([], next) := rfl
  have quiet : StepsMeet deviceStep KeepsBuffer next [] := trivial
  have both := insw_delivers_sectors start nothing selected rfl issued
    quiet none still ⟨by decide, by decide, by decide, by decide⟩ promised
  have two : twoWords.count.toNat = 2 := by decide
  obtain ⟨after, ended, served⟩ := both.1.mpr
    (by
      rw [two]
      change 0 + 2 ≤ _
      omega)
  exact ⟨machine, next, after, ended, start, issued, served⟩

end Kvmulate.Devices
