import Kvmulate.Ata.History

/-!
# The data request bit

DRQ should be set exactly while a word of the latest data command is due.  The
data port also serves words of transfers that were given up; some of these
rewrite DRQ, and they are the only accesses that break the law.
-/

namespace Kvmulate.Ata

open DeviceLib

def DrqAgrees (state : AtaController × History) : Prop :=
  state.1.master.drq ↔ state.2.Pending

/-- A word of a transfer that is not the latest one rewrites DRQ: read at the
end of a block it sets DRQ although no word is due, and as the last word of
its buffer it clears DRQ although words of the other direction are due. -/
def History.Disturbed (history : History) : Event → Prop
  | .dataIn =>
      history.latest ≠ some .read ∧
        ((history.Pending ∧
            history.wordsRead + 1 = history.readWords) ∨
          (¬ history.Pending ∧ 256 ∣ history.wordsRead + 1 ∧
            history.wordsRead + 1 < history.readWords))
  | .dataOut _ =>
      history.latest = some .read ∧ history.Pending ∧
        history.written.length + 1 = history.writeWords
  | _ => False

section Status

variable {dev next : AtaDev}

theorem drq_of_status (same : next.reg .status = dev.reg .status) :
    next.drq ↔ dev.drq := by
  unfold AtaDev.drq
  rw [same]

theorem drq_of_offered {reg : Regs} (offered : dev.reg = offeredRegs reg) :
    dev.drq := by
  unfold AtaDev.drq
  rw [offered, offeredRegs, setStatus_status]
  decide

theorem not_drq_of_ready {reg : Regs}
    (ready : dev.reg = Regs.setStatus reg bitStatusDrdy) : ¬ dev.drq := by
  unfold AtaDev.drq
  rw [ready, setStatus_status]
  decide

end Status

/-- Whether DRQ is set after a word was read. -/
theorem drq_readWord {dev : AtaDev} {history : History}
    (tracks : ReadTracks dev history) :
    { dev with
        readBufferOffset := dev.readBufferOffset + 2
        reg := readWordRegs dev }.drq ↔
      history.wordsRead + 1 < history.readWords ∧
        (256 ∣ history.wordsRead + 1 ∨ dev.drq) := by
  have offset := tracks.offset
  have size := tracks.size
  unfold readWordRegs
  by_cases last : dev.readBufferOffset + 2 ≥ dev.readBufferSize
  · rw [if_pos last]
    refine iff_of_false (not_drq_of_ready rfl) ?_
    intro more
    omega
  rw [if_neg last]
  have more : history.wordsRead + 1 < history.readWords := by
    omega
  by_cases block : (dev.readBufferOffset + 2) % 512 = 0
  · rw [if_pos block]
    refine iff_of_true (drq_of_offered rfl) ⟨more, Or.inl ?_⟩
    omega
  · rw [if_neg block]
    have inside : ¬ 256 ∣ history.wordsRead + 1 := by
      omega
    simp only [more, inside, true_and, false_or]
    exact drq_of_status rfl

/-- Reading a word that is due keeps the law unless the word disturbs. -/
theorem History.pending_dataIn {history : History} (reg : Regs)
    (announced : history.wordsRead < history.readWords) :
    ((history.wordsRead + 1 < history.readWords ∧
          (256 ∣ history.wordsRead + 1 ∨ history.Pending)) ↔
        (history.after reg .dataIn).Pending) ↔
      ¬ history.Disturbed .dataIn := by
  simp only [History.after, History.Pending, History.Disturbed]
  cases latest : history.latest with
  | none =>
      simp only [ne_eq, reduceCtorEq, not_false_eq_true, true_and,
        false_and, false_or, or_false, iff_false]
      tauto
  | some direction =>
      cases direction with
      | read =>
          simp only [ne_eq, not_true_eq_false, false_and,
            not_false_eq_true, iff_true]
          omega
      | write =>
          simp only [ne_eq, Option.some.injEq, reduceCtorEq,
            not_false_eq_true, true_and]
          omega

/-- Writing a word that is not the last one never disturbs. -/
theorem History.pending_dataOut_more {history : History} (reg : Regs)
    (val : Uint16)
    (more : history.written.length + 1 < history.writeWords) :
    (history.Pending ↔ (history.after reg (.dataOut val)).Pending) ↔
      ¬ history.Disturbed (.dataOut val) := by
  simp only [History.after, History.Pending, History.Disturbed,
    List.length_append, List.length_singleton]
  cases latest : history.latest with
  | none =>
      simp
  | some direction =>
      cases direction with
      | read =>
          simp only [true_and]
          grind
      | write =>
          simp only [Option.some.injEq, reduceCtorEq, false_and]
          grind

/-- The last word of the write buffer disturbs a read that is due. -/
theorem History.pending_dataOut_last {history : History} (reg : Regs)
    (val : Uint16)
    (last : history.written.length + 1 = history.writeWords) :
    ¬ (history.after reg (.dataOut val)).Pending ↔
      ¬ history.Disturbed (.dataOut val) := by
  simp only [History.after, History.Pending, History.Disturbed,
    List.length_append, List.length_singleton]
  cases latest : history.latest with
  | none =>
      simp
  | some direction =>
      cases direction with
      | read =>
          simp only [true_and]
          grind
      | write =>
          simp only [Option.some.injEq, reduceCtorEq, false_and]
          grind

/-- One access keeps the law exactly when it is not a disturbing word. -/
theorem drqAgrees_access {cont next : AtaController} {history : History}
    {host : HostCalls} {guest : Access} {response : Response}
    (tracks : Tracks cont history)
    (agrees : cont.master.drq ↔ history.Pending)
    (called : access cont (host, guest) = .ok (response, next)) :
    (next.master.drq ↔
        (history.after cont.currDev.reg (eventOf cont guest)).Pending) ↔
      ¬ history.Disturbed (eventOf cont guest) := by
  obtain ⟨fixed, read, write⟩ := tracks
  have served := served_of_access fixed called
  generalize eventOf cont guest = event at served
  cases served with
  | register _ status _ =>
      refine iff_of_true ?_ not_false
      rw [drq_of_status status]
      exact agrees
  | reset =>
      refine iff_of_true ?_ not_false
      refine iff_of_false ?_ not_false
      simp only [AtaDev.drq, resetRegs, ne_eq, reduceCtorEq,
        not_false_eq_true, Function.update_of_ne, setStatus_status]
      decide
  | @nonData cmd _ _ notRead notWrite notIdentify _ clear _ =>
      refine iff_of_true ?_ not_false
      refine iff_of_false clear ?_
      simp [History.after, notRead, notWrite, notIdentify,
        History.Pending]
  | readSectors selected =>
      have tracks := startedRead_tracks host history selected
      refine iff_of_true ?_ not_false
      exact iff_of_true (drq_of_offered rfl) (tracks.allocated.mp rfl)
  | identify =>
      refine iff_of_true ?_ not_false
      exact iff_of_true (drq_of_offered rfl) (by decide : 0 < 256)
  | writeSectors selected _ count =>
      have positive : (cont.master.reg .sectorCount).toNat ≠ 0 :=
        fun zero => count (BitVec.eq_of_toNat_eq zero)
      refine iff_of_true ?_ not_false
      refine iff_of_true (drq_of_offered rfl) ?_
      rw [currDev_of_master selected]
      change 0 < 256 * (cont.master.reg .sectorCount).toNat
      omega
  | dataIn _ inside =>
      rw [drq_readWord read, agrees]
      exact History.pending_dataIn _ (read.inside_iff.mp inside)
  | @dataOut val _ inside more =>
      have announced := write.inside_iff.mp inside
      have offset := write.offset
      have size := write.size
      have kept : (storedDev cont.master val).drq ↔ cont.master.drq :=
        drq_of_status rfl
      rw [kept, agrees]
      exact History.pending_dataOut_more _ val (by omega)
  | @commit val _ inside last =>
      have announced := write.inside_iff.mp inside
      have offset := write.offset
      have size := write.size
      rw [iff_false_left (not_drq_of_ready rfl)]
      exact History.pending_dataOut_last _ val (by omega)

theorem drqAgrees_step
    {state next : AtaController × History} {input : HostCalls × Access}
    {response : Response} (related : Related state)
    (agrees : DrqAgrees state)
    (called : accessObserved state input = .ok (response, next)) :
    DrqAgrees next ↔
      ¬ state.2.Disturbed (eventOf state.1 input.2) := by
  obtain ⟨cont, history⟩ := state
  obtain ⟨after, later⟩ := next
  obtain ⟨host, guest⟩ := input
  obtain ⟨answered, rfl⟩ := observed_eq_ok_iff.mp called
  exact drqAgrees_access related agrees answered

end Kvmulate.Ata
