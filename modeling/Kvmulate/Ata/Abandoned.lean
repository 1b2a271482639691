import Kvmulate.Ata.Transfers

/-!
# Transfers that are given up

A command that transfers nothing leaves the buffer and the offset of the
transfer before it in place.  The data port goes on serving that buffer, and
at the end of a block it asks for data again.
-/

namespace Kvmulate.Ata

open DeviceLib

/-- In every run of in-bounds accesses from the initial state, DRQ agrees with
the pending transfer throughout exactly when no word disturbs it. -/
theorem drq_iff_pending_throughout (image : List Uint8)
    (inputs : List (HostCalls × Access)) (responses : List Response)
    (final : AtaController × History)
    (ran : run accessObserved (x86AtaInit image, History.start) inputs =
      .ok (responses, final)) :
    Throughout accessObserved DrqAgrees
        (x86AtaInit image, History.start) inputs ↔
      StepsMeet accessObserved
        (fun state (input : HostCalls × Access) =>
          ¬ state.2.Disturbed (eventOf state.1 input.2))
        (x86AtaInit image, History.start) inputs := by
  have initially : DrqAgrees (x86AtaInit image, History.start) :=
    iff_of_false
      (by
        change ¬ ((bitStatusDrdy &&& bitStatusDrq) ≠ 0)
        decide)
      not_false
  exact throughout_iff_stepsMeet related_step drqAgrees_step
    (related_init image) initially ran

/-- A read is started, and another command follows. -/
theorem drq_iff_pending_throughout_commands :
    let inputs :=
      [(HostCalls.full, .outb portWCommand cmdReadSectorsCode),
        (HostCalls.full, .outb portWCommand cmdRecalibrateCode)]
    Throughout accessObserved DrqAgrees
        (x86AtaInit [], History.start) inputs ↔
      StepsMeet accessObserved
        (fun state (input : HostCalls × Access) =>
          ¬ state.2.Disturbed (eventOf state.1 input.2))
        (x86AtaInit [], History.start) inputs :=
  drq_iff_pending_throughout [] _ _ _ rfl

/-- A read of two sectors is given up one word before the end of its first
block, and one more word is read. -/
def abandonedRead : List (HostCalls × Access) :=
  (program 0 2).setup.map TaskWrite.input ++
    (HostCalls.full, .outb portWCommand cmdReadSectorsCode) ::
      (List.replicate 255 (HostCalls.full, .inw 0) ++
        [(HostCalls.full, .outb portWCommand cmdRecalibrateCode),
          (HostCalls.full, .inw 0)])

/-- After a command that transfers nothing, a word at the end of a block of
the read before it sets DRQ. -/
theorem not_drqAgrees_of_recalibrate {cont : AtaController}
    {history : History} (tracks : Tracks cont history)
    (selected : cont.pCurrDev = .master)
    (block : 256 ∣ history.wordsRead + 1)
    (more : history.wordsRead + 1 < history.readWords) :
    ∃ responses final,
      run accessObserved (cont, history)
          [(HostCalls.full, .outb portWCommand cmdRecalibrateCode),
            (HostCalls.full, .inw 0)] =
        .ok (responses, final) ∧
      ¬ DrqAgrees final := by
  have acknowledged :=
    access_recalibrate HostCalls.full tracks.fixed selected
  have ended :
      { history with latest := none } =
        History.observe cont
          (HostCalls.full, .outb portWCommand cmdRecalibrateCode) .none
          history := by
    rw [History.observe, eventOf_command tracks.fixed selected]
    rfl
  have recalibrated := observed_eq_ok_iff.mpr ⟨acknowledged, ended⟩
  have initially : Related (cont, history) := tracks
  have later := related_step initially recalibrated
  have served :=
    access_inw HostCalls.full later selected (Nat.lt_of_succ_lt more)
  have clear :
      (acknowledgedDev
        (withCommand cont.master cmdRecalibrateCode)).drq ↔
        { history with latest := none }.Pending :=
    iff_of_false (not_drq_acknowledgedDev _) not_false
  have kept := drqAgrees_access later clear served
  have other : (none : Option Direction) ≠ some .read := by
    decide
  have disturbed :
      { history with latest := none }.Disturbed (.dataIn) :=
    ⟨other, Or.inr ⟨not_false, block, more⟩⟩
  exact ⟨_, _,
    run_cons recalibrated (run_one (observed_eq_ok_iff.mpr ⟨served, rfl⟩)),
    fun agrees => kept.mp agrees disturbed⟩

theorem not_drqAgrees_abandonedRead :
    ∃ responses final,
      run accessObserved (x86AtaInit [], History.start) abandonedRead =
          .ok (responses, final) ∧
        ¬ DrqAgrees final := by
  have tracks : Tracks (x86AtaInit []) History.start := related_init []
  have counted := (program 0 2).sectorCount (x86AtaInit []).master.reg
  have setup :=
    run_setup History.start tracks.fixed rfl (program 0 2).keeps
  generalize programs :
    (program 0 2).setup.foldl TaskWrite.apply (x86AtaInit []).master.reg =
      reg at counted setup
  have prepared : Related (withRegs (x86AtaInit []) reg, History.start) :=
    tracks.withRegs reg
  have started := started_read tracks rfl counted
  have startedTracks := related_step prepared started
  obtain ⟨words, left, drained, -, -, selected, -, -⟩ :=
    run_dataIn HostCalls.full 255
      ⟨startedTracks, rfl, rfl,
        iff_of_true (drq_of_offered rfl) (by decide : 0 < 512)⟩
      (by decide : 0 + 255 ≤ 512)
  have leftTracks := run_invariant related_step startedTracks drained
  obtain ⟨responses, final, ran, disagrees⟩ :=
    not_drqAgrees_of_recalibrate leftTracks selected
      (by decide : 256 ∣ 0 + 255 + 1)
      (by decide : 0 + 255 + 1 < 512)
  exact ⟨_, final,
    run_append setup (run_cons started (run_append drained ran)),
    disagrees⟩

/-- DRQ does not agree with the pending transfer in every reachable state. -/
theorem drq_not_always_pending :
    ¬ ∀ (image : List Uint8) (inputs : List (HostCalls × Access))
        (responses : List Response) (final : AtaController × History),
      run accessObserved (x86AtaInit image, History.start) inputs =
          .ok (responses, final) →
        DrqAgrees final := by
  intro always
  obtain ⟨responses, final, ran, disagrees⟩ := not_drqAgrees_abandonedRead
  exact disagrees (always [] abandonedRead responses final ran)

end Kvmulate.Ata
