import Kvmulate.Ata.History

/-!
# The backing file

The file changes only when the last word of a WRITE SECTORS command arrives,
and then takes all words of that command at once.
-/

namespace Kvmulate.Ata

open DeviceLib

/-- The access makes `pio_outw` write its buffer to the backing file. -/
def Commits (cont : AtaController) : Access → Prop
  | .outw address _ =>
      address = 0 ∧
        insideBuffer cont.currDev.writeBuffer
          cont.currDev.writeBufferOffset ∧
        cont.currDev.writeBufferOffset + 2 =
          cont.currDev.writeBufferSize
  | _ => False

/-- The access is the last data word of the latest WRITE SECTORS command. -/
def History.DeliversLast (history : History) : Access → Prop
  | .outw _ _ => history.written.length + 1 = history.writeWords
  | _ => False

/-- The access gives the present device the command WRITE SECTORS. -/
def WriteCommanded (cont : AtaController) (guest : Access) : Prop :=
  eventOf cont guest = .command cmdWriteSectorsCode

/-- What an access that returns does to the backing file. -/
def CommitLaw (cont : AtaController) (history : History)
    (input : HostCalls × Access) : Prop :=
  ∀ response next, access cont input = .ok (response, next) →
    (Commits cont input.2 ↔ history.DeliversLast input.2) ∧
      (¬ Commits cont input.2 →
        next.master.backingfile.data = cont.master.backingfile.data) ∧
      ∀ address val, input.2 = .outw address val →
        Commits cont input.2 →
          (history.written ++ [val]).length = history.writeWords ∧
            next.master.backingfile.data =
              overwrite cont.master.backingfile.data
                (512 * history.writeLba.toNat)
                ((history.written ++ [val]).flatMap wordBytes)

/-! ## One access -/

theorem sectorOffset_setWidth (lba : Uint32) :
    sectorOffset (lba.setWidth 64) = 512 * lba.toNat := by
  have bound := lba.isLt
  have block : (512 : Uint64).toNat = 512 := rfl
  unfold sectorOffset
  rw [BitVec.toNat_mul, BitVec.toNat_setWidth, block]
  omega

/-- The last word of a command puts all of its words into the file. -/
theorem committedDev_data {host : HostCalls} {dev : AtaDev}
    {history : History} (tracks : WriteTracks dev history) (val : Uint16)
    (last : history.written.length + 1 = history.writeWords)
    (all :
      dev.backingfile.WritesAll host (512 * history.writeLba.toNat)
        (2 * history.writeWords)) :
    (committedDev host dev val).backingfile.data =
      overwrite dev.backingfile.data (512 * history.writeLba.toNat)
        ((history.written ++ [val]).flatMap wordBytes) := by
  have stored := tracks.stored val (by omega)
  have none :
      2 * (history.writeWords - (history.written.length + 1)) = 0 := by
    omega
  rw [none, List.replicate_zero, List.append_nil] at stored
  have whole :
      ((history.written ++ [val]).flatMap wordBytes).take
          dev.writeBufferSize.toNat =
        (history.written ++ [val]).flatMap wordBytes := by
    apply List.take_of_length_le
    rw [flatMap_wordBytes_length, tracks.size, List.length_append,
      List.length_singleton]
    omega
  have nonempty :
      (history.written ++ [val]).flatMap wordBytes ≠ [] := by
    intro empty
    have length := congrArg List.length empty
    rw [flatMap_wordBytes_length, List.length_append] at length
    simp at length
  have length :
      ((history.written ++ [val]).flatMap wordBytes).length =
        2 * history.writeWords := by
    rw [flatMap_wordBytes_length, List.length_append,
      List.length_singleton, last]
  unfold committedDev
  simp only [stored, whole, tracks.lba, sectorOffset_setWidth]
  exact HostFile.data_of_writesAll nonempty (length ▸ all)

/-- A word that `pio_outw` takes is a word for the master. -/
theorem Fixed.outw_eq_ok {cont next : AtaController} {host : HostCalls}
    {address val : Uint16} {response : Response} (fixed : Fixed cont)
    (called : access cont (host, .outw address val) =
      .ok (response, next)) :
    cont.pCurrDev = .master ∧ pioOutw host cont address val = .ok next := by
  simp only [access, Outcome.bind_eq_ok_iff, Outcome.pure_eq_ok,
    Except.ok.injEq, Prod.mk.injEq] at called
  obtain ⟨_, called, _, rfl⟩ := called
  exact ⟨fixed.selected_of_pioOutw called, called⟩

theorem commits_iff_deliversLast {cont next : AtaController}
    {history : History} {host : HostCalls} {guest : Access}
    {response : Response} (tracks : Tracks cont history)
    (called : access cont (host, guest) = .ok (response, next)) :
    Commits cont guest ↔ history.DeliversLast guest := by
  cases guest with
  | outw address val =>
      obtain ⟨selected, served⟩ := tracks.fixed.outw_eq_ok called
      obtain ⟨port, inside, -⟩ := (pioOutw_eq_ok_iff selected).mp served
      have offset := tracks.write.offset
      have size := tracks.write.size
      simp only [Commits, History.DeliversLast,
        currDev_of_master selected, port, inside, true_and]
      omega
  | outb => exact Iff.rfl
  | inb => exact Iff.rfl
  | inw => exact Iff.rfl

/-- The file of the master is changed by commits only. -/
theorem data_eq_of_not_commits {cont next : AtaController}
    {history : History} {host : HostCalls} {guest : Access}
    {response : Response} (tracks : Tracks cont history)
    (called : access cont (host, guest) = .ok (response, next))
    (notCommit : ¬ Commits cont guest) :
    next.master.backingfile.data = cont.master.backingfile.data := by
  cases guest with
  | outw address val =>
      obtain ⟨selected, served⟩ := tracks.fixed.outw_eq_ok called
      obtain ⟨port, inside, rfl⟩ := (pioOutw_eq_ok_iff selected).mp served
      simp only [Commits, currDev_of_master selected, port, inside,
        true_and] at notCommit
      rw [if_neg notCommit]
      rfl
  | _ =>
      have served := served_of_access tracks.fixed called
      generalize seen : eventOf cont _ = event at served
      cases served with
      | register master _ _ => exact congrArg HostFile.data master.file
      | reset => rfl
      | nonData _ _ _ _ same => exact congrArg HostFile.data same.file
      | readSectors => simp [readDev, withCommand]
      | identify => rfl
      | writeSectors => rfl
      | dataIn => rfl
      | dataOut => rfl
      | commit =>
          simp only [eventOf, reduceCtorEq] at seen
          try split_ifs at seen

theorem commitLaw_of_tracks {cont : AtaController} {history : History}
    (tracks : Tracks cont history) (guest : Access) :
    CommitLaw cont history (HostCalls.full, guest) := by
  intro response next called
  have agree := commits_iff_deliversLast tracks called
  refine ⟨agree, data_eq_of_not_commits tracks called, ?_⟩
  intro address val same commits
  simp only at same
  subst same
  have last : history.written.length + 1 = history.writeWords :=
    agree.mp commits
  obtain ⟨selected, served⟩ := tracks.fixed.outw_eq_ok called
  obtain ⟨-, -, rfl⟩ := (pioOutw_eq_ok_iff selected).mp served
  have offset := tracks.write.offset
  have size := tracks.write.size
  rw [if_pos (by omega)]
  exact ⟨by
    rw [List.length_append, List.length_singleton]
    exact last,
    committedDev_data tracks.write val last
      (HostFile.writesAll_full _ _ _)⟩

/-! ## Whole runs -/

/-- All words of the latest WRITE SECTORS command have been delivered. -/
def Spent (state : AtaController × History) : Prop :=
  state.2.writeWords ≤ state.2.written.length

theorem not_commits_of_spent {state : AtaController × History}
    {guest : Access} (related : Related state) (spent : Spent state) :
    ¬ Commits state.1 guest := by
  obtain ⟨cont, history⟩ := state
  intro commits
  cases guest with
  | outw address val =>
      obtain ⟨-, inside, -⟩ := commits
      cases selected : cont.pCurrDev with
      | slave =>
          exact (related.fixed.not_inside_slave selected).2 _ inside
      | master =>
          rw [currDev_of_master selected] at inside
          have announced := related.write.inside_iff.mp inside
          exact absurd announced (Nat.not_lt.mpr spent)
  | outb => exact commits
  | inb => exact commits
  | inw => exact commits

theorem spent_of_commits
    {state next : AtaController × History} {input : HostCalls × Access}
    {response : Response} (related : Related state)
    (commits : Commits state.1 input.2)
    (called : accessObserved state input = .ok (response, next)) :
    Spent next := by
  obtain ⟨cont, history⟩ := state
  obtain ⟨after, later⟩ := next
  obtain ⟨host, guest⟩ := input
  obtain ⟨answered, rfl⟩ := observed_eq_ok_iff.mp called
  have last := (commits_iff_deliversLast related answered).mp commits
  cases guest with
  | outw address val =>
      change history.writeWords ≤ (history.written ++ [val]).length
      rw [List.length_append, List.length_singleton]
      exact Nat.le_of_eq last.symm
  | outb => exact absurd commits not_false
  | inb => exact absurd commits not_false
  | inw => exact absurd commits not_false

/-- Only a new WRITE SECTORS command makes another commit possible. -/
theorem spent_of_not_writeCommanded
    {state next : AtaController × History} {input : HostCalls × Access}
    {response : Response} (spent : Spent state)
    (other : ¬ WriteCommanded state.1 input.2)
    (called : accessObserved state input = .ok (response, next)) :
    Spent next := by
  obtain ⟨cont, history⟩ := state
  obtain ⟨after, later⟩ := next
  obtain ⟨host, guest⟩ := input
  obtain ⟨-, rfl⟩ := observed_eq_ok_iff.mp called
  simp only [WriteCommanded] at other
  simp only [Spent, History.observe]
  cases seen : eventOf cont guest with
  | register => exact spent
  | reset => exact spent
  | dataIn => exact spent
  | dataOut val =>
      refine Nat.le_trans spent ?_
      simp [History.after]
  | command cmd =>
      have different : cmd ≠ cmdWriteSectorsCode := by
        intro same
        exact other (by rw [seen, same])
      simp only [History.after, if_neg different]
      split_ifs <;> exact spent

/-- In every run, the backing file changes only when the last announced word
of the latest WRITE SECTORS command arrives; it then takes the words of that
command at the address of that command, and at most once for each command. -/
theorem backingFile_written_by_commits (image : List Uint8)
    (guests : List Access) :
    StepsMeet accessObserved
        (fun state input => CommitLaw state.1 state.2 input)
        (x86AtaInit image, History.start)
        (guests.map fun guest => (HostCalls.full, guest)) ∧
      Separated accessObserved
        (fun state input => WriteCommanded state.1 input.2)
        (fun state input => Commits state.1 input.2)
        (x86AtaInit image, History.start)
        (guests.map fun guest => (HostCalls.full, guest)) := by
  constructor
  · refine stepsMeet_of_invariant
      (fun input => input.1 = HostCalls.full)
      related_step ?_ (related_init image) ?_
    · intro state input related full
      obtain ⟨host, guest⟩ := input
      cases full
      exact commitLaw_of_tracks related guest
    · intro input mem
      obtain ⟨guest, -, rfl⟩ := List.mem_map.mp mem
      rfl
  · exact separated_of_spent related_step spent_of_commits
      (fun related spent => not_commits_of_spent related spent)
      (fun _ spent other called =>
        spent_of_not_writeCommanded spent other called)
      (related_init image)

end Kvmulate.Ata
