import Kvmulate.Ata.History
import Kvmulate.Ata.Registers
import Kvmulate.Lib.Latch

/-!
# The two copies of the status

Status and Alternate Status are two registers, and every place that writes one
has to write the other.  The initial state and IDENTIFY PACKET DEVICE forget
the copy; every later write of both repairs it.
-/

namespace Kvmulate.Ata

open DeviceLib

/-- Both registers of the present device hold the same value. -/
def CopiesAgree (cont : AtaController) : Prop :=
  cont.master.reg .status = cont.master.reg .alternateStatus

/-- The event writes both registers: a reset, a command that is carried out,
or a word that ends a block or a transfer. -/
def History.WritesBoth (history : History) : Event → Prop
  | .register => False
  | .reset => True
  | .command cmd => cmd ≠ cmdIdentifyPacketDeviceCode
  | .dataIn =>
      history.readWords ≤ history.wordsRead + 1 ∨
        256 ∣ history.wordsRead + 1
  | .dataOut _ => history.written.length + 1 = history.writeWords

/-- The event writes Status alone. -/
def WritesStatusAlone (event : Event) : Prop :=
  event = .command cmdIdentifyPacketDeviceCode

/-- The status that a refused command leaves. -/
def refusedStatus : Uint8 := bitStatusErr ||| bitStatusDrdy

/-- What an access does to the two registers. -/
inductive CopiesStep (history : History) (reg : Regs) (event : Event)
    (next : Regs) : Prop
  | both (val : Uint8) :
      history.WritesBoth event → ¬ WritesStatusAlone event →
      val ≠ refusedStatus → next .status = val →
      next .alternateStatus = val →
      CopiesStep history reg event next
  | alone :
      ¬ history.WritesBoth event → WritesStatusAlone event →
      next .status = refusedStatus →
      next .alternateStatus = reg .alternateStatus →
      CopiesStep history reg event next
  | kept :
      ¬ history.WritesBoth event → ¬ WritesStatusAlone event →
      next .status = reg .status →
      next .alternateStatus = reg .alternateStatus →
      CopiesStep history reg event next

section Step

variable {history : History} {reg : Regs} {event : Event}

@[simp]
theorem setStatus_alternateStatus (reg : Regs) (val : Uint8) :
    Regs.setStatus reg val .alternateStatus = val := by
  simp [Regs.setStatus]

theorem CopiesStep.of_setStatus {val : Uint8}
    (writes : history.WritesBoth event)
    (notAlone : ¬ WritesStatusAlone event) (other : val ≠ refusedStatus)
    (stored : Regs) :
    CopiesStep history reg event (Regs.setStatus stored val) :=
  .both val writes notAlone other (setStatus_status stored val)
    (setStatus_alternateStatus stored val)

/-- A command writes both registers, unless it is refused. -/
theorem copiesStep_command (cmd : Uint8) :
    CopiesStep history reg (.command cmd) (commandRegs reg cmd) := by
  simp only [commandRegs]
  split_ifs with refused offers
  · refine .alone (not_not_intro refused) (congrArg Event.command refused)
      ?_ ?_
    · exact Function.update_self Reg.status _ _
    · simp
  · have notAlone : ¬ WritesStatusAlone (.command cmd) :=
      fun alone => refused (Event.command.inj alone)
    exact .of_setStatus (by exact refused) notAlone (by decide) _
  · have notAlone : ¬ WritesStatusAlone (.command cmd) :=
      fun alone => refused (Event.command.inj alone)
    exact .of_setStatus (by exact refused) notAlone (by decide) _

/-- A word from the data port writes both registers at the end of a block. -/
theorem copiesStep_dataIn {dev : AtaDev}
    (tracks : ReadTracks dev history) :
    CopiesStep history dev.reg .dataIn (readWordRegs dev) := by
  have offset := tracks.offset
  have size := tracks.size
  have notAlone : ¬ WritesStatusAlone .dataIn := Event.noConfusion
  simp only [readWordRegs]
  split_ifs with last block
  · refine .of_setStatus ?_ notAlone (by decide) _
    exact Or.inl (by omega)
  · refine .of_setStatus ?_ notAlone (by decide) _
    exact Or.inr (by omega)
  · refine .kept ?_ notAlone rfl rfl
    simp only [History.WritesBoth]
    omega

/-- A word for the data port writes both registers as the last one. -/
theorem copiesStep_dataOut {dev : AtaDev} (val : Uint16)
    (tracks : WriteTracks dev history) :
    CopiesStep history dev.reg (.dataOut val) (writeWordRegs dev) := by
  have offset := tracks.offset
  have size := tracks.size
  have notAlone : ¬ WritesStatusAlone (.dataOut val) := Event.noConfusion
  simp only [writeWordRegs]
  split_ifs with last
  · refine .of_setStatus ?_ notAlone (by decide) _
    simp only [History.WritesBoth]
    omega
  · refine .kept ?_ notAlone rfl rfl
    simp only [History.WritesBoth]
    omega

/-- A byte that is neither a command nor a reset. -/
theorem copiesStep_register (cont : AtaController) (address : Uint16)
    (val : Uint8) :
    CopiesStep history cont.master.reg .register
      (takenRegs cont address val) := by
  have other : ∀ target : Reg, writePorts target = [] →
      takenRegs cont address val target = cont.master.reg target := by
    intro target none
    refine if_neg fun takes => ?_
    have mem := takes.2
    rw [none] at mem
    cases mem
  exact .kept not_false Event.noConfusion (other _ rfl) (other _ rfl)

theorem eventOf_outb (cont : AtaController) (address : Uint16)
    (val : Uint8) :
    eventOf cont (.outb address val) = .register ∨
      eventOf cont (.outb address val) = .command val ∨
        eventOf cont (.outb address val) = .reset := by
  simp only [eventOf]
  split_ifs <;> simp

theorem copiesStep_access {cont next : AtaController} {host : HostCalls}
    {guest : Access} {response : Response} (tracks : Tracks cont history)
    (called : access cont (host, guest) = .ok (response, next)) :
    CopiesStep history cont.master.reg (eventOf cont guest)
      next.master.reg := by
  rw [regs_of_access tracks.fixed called]
  cases guest with
  | outb address val =>
      simp only [regsAfter]
      rcases eventOf_outb cont address val with event | event | event
      · rw [event]
        exact copiesStep_register cont address val
      · rw [event]
        exact copiesStep_command val
      · rw [event]
        refine .both bitStatusDrdy trivial Event.noConfusion (by decide)
          ?_ ?_
        · rfl
        · rfl
  | inb address => exact .kept not_false Event.noConfusion rfl rfl
  | outw address val => exact copiesStep_dataOut val tracks.write
  | inw address => exact copiesStep_dataIn tracks.read

end Step

/-! ## After a whole run -/

/-- Alternate Status never holds what a refused command leaves. -/
def NeverRefused (state : AtaController × History) : Prop :=
  Related state ∧ state.1.master.reg .alternateStatus ≠ refusedStatus

theorem neverRefused_step {state next : AtaController × History}
    {input : HostCalls × Access} {response : Response}
    (never : NeverRefused state)
    (called : accessObserved state input = .ok (response, next)) :
    NeverRefused next := by
  obtain ⟨related, before⟩ := never
  refine ⟨related_step related called, ?_⟩
  obtain ⟨cont, history⟩ := state
  obtain ⟨after, later⟩ := next
  obtain ⟨host, guest⟩ := input
  obtain ⟨served, -⟩ := observed_eq_ok_iff.mp called
  cases copiesStep_access related served with
  | both val _ _ other _ alternate => exact alternate ▸ other
  | alone _ _ _ alternate => exact alternate ▸ before
  | kept _ _ _ alternate => exact alternate ▸ before

theorem copiesAgree_step {state next : AtaController × History}
    {input : HostCalls × Access} {response : Response}
    (never : NeverRefused state)
    (called : accessObserved state input = .ok (response, next)) :
    CopiesAgree next.1 ↔
      state.2.WritesBoth (eventOf state.1 input.2) ∨
        CopiesAgree state.1 ∧
          ¬ WritesStatusAlone (eventOf state.1 input.2) := by
  obtain ⟨related, before⟩ := never
  obtain ⟨cont, history⟩ := state
  obtain ⟨after, later⟩ := next
  obtain ⟨host, guest⟩ := input
  obtain ⟨served, -⟩ := observed_eq_ok_iff.mp called
  simp only [CopiesAgree]
  cases copiesStep_access related served with
  | both val writes _ _ status alternate =>
      refine iff_of_true ?_ (Or.inl writes)
      rw [status, alternate]
  | alone notBoth alone status alternate =>
      rw [status, alternate]
      refine iff_of_false (fun same => before same.symm) ?_
      simp only [notBoth, alone, not_true_eq_false, and_false, or_false,
        not_false_eq_true]
  | kept notBoth notAlone status alternate =>
      rw [status, alternate]
      simp only [notBoth, notAlone, not_false_eq_true, and_true,
        false_or]

/-- After every run the two registers agree exactly where an access has
written both and IDENTIFY PACKET DEVICE has not come since. -/
theorem copiesAgree_iff {image : List Uint8}
    {inputs : List (HostCalls × Access)} {responses : List Response}
    {final : AtaController × History}
    (ran : run accessObserved (x86AtaInit image, History.start) inputs =
      .ok (responses, final)) :
    CopiesAgree final.1 ↔
      Latched accessObserved
        (fun state input =>
          state.2.WritesBoth (eventOf state.1 input.2))
        (fun state input => WritesStatusAlone (eventOf state.1 input.2))
        False (x86AtaInit image, History.start) inputs := by
  have initial : NeverRefused (x86AtaInit image, History.start) :=
    ⟨related_init image,
      (by decide : (0 : Uint8) ≠ refusedStatus)⟩
  have apart : ¬ CopiesAgree (x86AtaInit image) :=
    (by decide : bitStatusDrdy ≠ 0)
  have latched := latched_iff neverRefused_step copiesAgree_step initial ran
  rw [latched]
  exact latched_congr (iff_of_false apart not_false)

/-- RECALIBRATE is the first command, and writes both. -/
theorem copiesAgree_iff_recalibrate :
    ∃ responses final,
      run accessObserved (x86AtaInit [], History.start)
          [(HostCalls.full, .outb portWCommand cmdRecalibrateCode)] =
        .ok (responses, final) ∧
      (CopiesAgree final.1 ↔
        Latched accessObserved
          (fun state input =>
            state.2.WritesBoth (eventOf state.1 input.2))
          (fun state input => WritesStatusAlone (eventOf state.1 input.2))
          False (x86AtaInit [], History.start)
          [(HostCalls.full, .outb portWCommand cmdRecalibrateCode)]) :=
  ⟨_, _, rfl, copiesAgree_iff rfl⟩

/-- In the initial state only Status shows that the disk is ready. -/
theorem not_always_copiesAgree :
    ¬ ∀ (image : List Uint8) (inputs : List (HostCalls × Access))
        (responses : List Response) (cont : AtaController),
      run access (x86AtaInit image) inputs = .ok (responses, cont) →
        CopiesAgree cont := by
  intro always
  have agree := always [] [] [] (x86AtaInit []) rfl
  exact absurd agree (by decide : ¬ bitStatusDrdy = 0)

end Kvmulate.Ata
