import Kvmulate.Ata.Programming
import Kvmulate.Ata.Registers

/-!
# Reading the task file back

`Given` records, from the guest's accesses alone, which value each register of
the master was given last.  The registers hold these values; the reads are
another matter.
-/

namespace Kvmulate.Ata

open DeviceLib

/-! ## The values that were given -/

/-- The value that a register of the master was given last, if any. -/
abbrev Given := TaskReg → Option Uint8

namespace Given

def start : Given := fun _ => none

/-- A soft reset gives values to four registers. -/
def afterReset (given : Given) : Given
  | .sectorCount => some 0x01
  | .sectorNumber => some 0x01
  | .cylinderLow => some 0x00
  | .cylinderHigh => some 0x00
  | other => given other

/-- A byte that is written to a port. -/
def afterWrite (given : Given) (cont : AtaController) (address : Uint16)
    (val : Uint8) : Given :=
  fun target =>
    if addressed cont address val = .master ∧ address = target.port then
      some val
    else given target

def observe (cont : AtaController) (input : HostCalls × Access)
    (_ : Response) (given : Given) : Given :=
  match input.2 with
  | .outb address val =>
      match eventOf cont (.outb address val) with
      | .reset => given.afterReset
      | .command _ => given
      | _ => given.afterWrite cont address val
  | _ => given

end Given

/-- The controller with the values that its registers were given. -/
abbrev accessGiven :
    Call (AtaController × Given) (HostCalls × Access) Response :=
  observed access Given.observe

/-- A read should show the value, and Device/Head two bits that are fixed. -/
def TaskReg.shown : TaskReg → Uint8 → Uint8
  | .deviceHead, val => val ||| 0xA0
  | _, val => val

/-- The register can be read, and the read shows what it was given. -/
def ReadsBack (cont : AtaController) (given : Given) (target : TaskReg) :
    Prop :=
  ∃ val next,
    pioInb cont target.port = .ok (val, next) ∧
      ∀ last, given target = some last → val = target.shown last

/-! ## The registers hold what they were given -/

/-- The registers that a soft reset gives values to. -/
def TaskReg.IsReset (target : TaskReg) : Prop :=
  target ≠ .features ∧ target ≠ .deviceHead

instance (target : TaskReg) : Decidable target.IsReset :=
  inferInstanceAs (Decidable (_ ∧ _))

structure Holds (state : AtaController × Given) : Prop where
  fixed : Fixed state.1
  holds : ∀ target : TaskReg, target.IsReset → ∀ last,
    state.2 target = some last → state.1.master.reg target.reg = last

section Step

variable {cont : AtaController} {given : Given}

/-- A byte for the port of a register is taken by the register. -/
theorem takes_port {address : Uint16} {val : Uint8} {target : TaskReg}
    (reset : target.IsReset) :
    Takes cont address val target.reg ↔
      addressed cont address val = .master ∧ address = target.port := by
  cases target with
  | features => exact absurd rfl reset.1
  | deviceHead => exact absurd rfl reset.2
  | _ => simp [Takes, TaskReg.reg, TaskReg.port, writePorts]

/-- The registers that the controller writes of its own accord are others. -/
theorem TaskReg.reg_ne (target : TaskReg) :
    target.reg ≠ .command ∧ target.reg ≠ .error ∧
      target.reg ≠ .status ∧ target.reg ≠ .alternateStatus := by
  cases target <;> decide

theorem setStatus_task (reg : Regs) (val : Uint8) (target : TaskReg) :
    Regs.setStatus reg val target.reg = reg target.reg := by
  obtain ⟨-, -, status, alternate⟩ := target.reg_ne
  rw [Regs.setStatus, Function.update_of_ne alternate,
    Function.update_of_ne status]

theorem offeredRegs_task (reg : Regs) (target : TaskReg) :
    offeredRegs reg target.reg = reg target.reg := by
  rw [offeredRegs, setStatus_task, Function.update_of_ne target.reg_ne.2.1]

/-- No command touches the registers that it takes its arguments from. -/
theorem commandRegs_task (reg : Regs) (cmd : Uint8) (target : TaskReg) :
    commandRegs reg cmd target.reg = reg target.reg := by
  obtain ⟨command, error, status, -⟩ := target.reg_ne
  rw [← Function.update_of_ne command cmd reg]
  simp only [commandRegs]
  split_ifs
  · rw [Function.update_of_ne status, Function.update_of_ne error]
  · exact offeredRegs_task _ target
  · rw [setStatus_task, Function.update_of_ne error]

theorem resetRegs_task {val last : Uint8} {target : TaskReg}
    (reset : target.IsReset) (gave : given.afterReset target = some last) :
    resetRegs val target.reg = last := by
  cases target with
  | features => exact absurd rfl reset.1
  | deviceHead => exact absurd rfl reset.2
  | _ =>
      simp only [Given.afterReset, Option.some.injEq] at gave
      rw [← gave]
      rfl

/-- A byte goes where the observer expects it. -/
theorem takenRegs_task {address : Uint16} {val last : Uint8}
    {target : TaskReg} (reset : target.IsReset)
    (before : given target = some last →
      cont.master.reg target.reg = last)
    (gave : given.afterWrite cont address val target = some last) :
    takenRegs cont address val target.reg = last := by
  simp only [Given.afterWrite] at gave
  simp only [takenRegs, takes_port reset]
  split at gave
  · rename_i here
    rw [if_pos here]
    exact Option.some.inj gave
  · rename_i elsewhere
    rw [if_neg elsewhere]
    exact before gave

/-- The registers after an access are the ones that the observer expects. -/
theorem regsAfter_task {guest : Access} {host : HostCalls}
    (response : Response) (holds : Holds (cont, given)) {target : TaskReg}
    (reset : target.IsReset) {last : Uint8}
    (gave : Given.observe cont (host, guest) response given target =
      some last) :
    regsAfter cont guest target.reg = last := by
  have before := holds.holds target reset last
  cases guest with
  | outb address val =>
      simp only [Given.observe] at gave
      simp only [regsAfter]
      cases event : eventOf cont (.outb address val) with
      | reset =>
          rw [event] at gave
          exact resetRegs_task reset gave
      | command cmd =>
          rw [event] at gave
          exact (commandRegs_task _ cmd target).trans (before gave)
      | _ =>
          rw [event] at gave
          exact takenRegs_task reset before gave
  | inb address => exact before gave
  | outw address val =>
      simp only [regsAfter, writeWordRegs]
      split
      · rw [setStatus_task]
        exact before gave
      · exact before gave
  | inw address =>
      simp only [regsAfter, readWordRegs]
      split
      · rw [setStatus_task]
        exact before gave
      · split
        · rw [offeredRegs_task]
          exact before gave
        · exact before gave

end Step

/-- Every access that returns leaves the registers as they were given. -/
theorem holds_step {state next : AtaController × Given}
    {input : HostCalls × Access} {response : Response}
    (holds : Holds state)
    (called : accessGiven state input = .ok (response, next)) :
    Holds next := by
  obtain ⟨cont, given⟩ := state
  obtain ⟨after, later⟩ := next
  obtain ⟨host, guest⟩ := input
  obtain ⟨served, rfl⟩ := observed_eq_ok_iff.mp called
  refine ⟨holds.fixed.of_access served, fun target reset last gave => ?_⟩
  rw [regs_of_access holds.fixed served]
  exact regsAfter_task response holds reset gave

theorem holds_init (image : List Uint8) :
    Holds (x86AtaInit image, Given.start) where
  fixed := (related_init image).fixed
  holds := by
    intro target _ last gave
    cases gave

/-! ## What the reads show -/

theorem or_fixed_bits :
    ∀ last : Uint8, (0xA0 : Uint8) = last ||| 0xA0 ↔ last &&& 0x5F = 0 := by
  decide

section Read

variable {cont : AtaController} {given : Given}

/-- What the port of each register answers on the master. -/
def answerOf (cont : AtaController) :
    TaskReg → Outcome (Uint8 × AtaController)
  | .features => .ok (cont.master.reg .error, cont)
  | .sectorCount => .ok (cont.master.reg .sectorCount, cont)
  | .sectorNumber => .ok (cont.master.reg .sectorNumber, cont)
  -- The switch of `pio_inb` has no case for the cylinder.
  | .cylinderLow => .error .abort
  | .cylinderHigh => .error .abort
  | .deviceHead => .ok (0xA0, cont)

theorem pioInb_of_master (fixed : Fixed cont)
    (selected : cont.pCurrDev = .master) (target : TaskReg) :
    pioInb cont target.port = answerOf cont target := by
  have present := fixed.masterPresent
  cases target <;>
    simp +decide [pioInb, answerOf, selected, present,
      currDev_of_master selected]

/-- A register whose read shows what it holds. -/
theorem readsBack_of_register (holds : Holds (cont, given))
    {target : TaskReg} (reset : target.IsReset)
    (read : pioInb cont target.port =
      .ok (cont.master.reg target.reg, cont)) :
    ReadsBack cont given target := by
  refine ⟨_, _, read, fun last gave => ?_⟩
  rw [holds.holds target reset last gave]
  cases target with
  | deviceHead => exact absurd rfl reset.2
  | _ => rfl

/-- Device/Head shows the fixed bits alone. -/
theorem readsBack_deviceHead_iff (fixed : Fixed cont)
    (selected : cont.pCurrDev = .master) :
    ReadsBack cont given .deviceHead ↔
      ∀ last, given .deviceHead = some last → last &&& 0x5F = 0 := by
  simp only [ReadsBack, pioInb_of_master fixed selected, answerOf,
    Except.ok.injEq, Prod.mk.injEq, TaskReg.shown]
  constructor
  · rintro ⟨_, _, ⟨rfl, -⟩, shows⟩ last gave
    exact (or_fixed_bits last).mp (shows last gave)
  · intro clear
    refine ⟨_, _, ⟨rfl, rfl⟩, fun last gave => ?_⟩
    exact (or_fixed_bits last).mpr (clear last gave)

end Read

/-- After every run, Sector Count and Sector Number read back.  Device/Head
does where the byte had no other bits than the fixed ones, and the cylinder
registers cannot be read at all. -/
theorem taskFile_readsBack_iff {image : List Uint8}
    {inputs : List (HostCalls × Access)} {responses : List Response}
    {cont : AtaController} {given : Given}
    (ran : run accessGiven (x86AtaInit image, Given.start) inputs =
      .ok (responses, (cont, given)))
    (selected : cont.pCurrDev = .master) (target : TaskReg)
    (readable : target ≠ .features) :
    ReadsBack cont given target ↔
      target = .sectorCount ∨ target = .sectorNumber ∨
        target = .deviceHead ∧
          ∀ last, given .deviceHead = some last → last &&& 0x5F = 0 := by
  have holds : Holds (cont, given) :=
    run_invariant holds_step (holds_init image) ran
  cases target with
  | features => exact absurd rfl readable
  | sectorCount =>
      refine iff_of_true ?_ (Or.inl rfl)
      exact readsBack_of_register holds (by decide)
        (pioInb_of_master holds.fixed selected .sectorCount)
  | sectorNumber =>
      refine iff_of_true ?_ (Or.inr (Or.inl rfl))
      exact readsBack_of_register holds (by decide)
        (pioInb_of_master holds.fixed selected .sectorNumber)
  | cylinderLow =>
      refine iff_of_false ?_ (by simp)
      rintro ⟨val, next, read, -⟩
      rw [pioInb_of_master holds.fixed selected .cylinderLow] at read
      cases read
  | cylinderHigh =>
      refine iff_of_false ?_ (by simp)
      rintro ⟨val, next, read, -⟩
      rw [pioInb_of_master holds.fixed selected .cylinderHigh] at read
      cases read
  | deviceHead =>
      rw [readsBack_deviceHead_iff holds.fixed selected]
      simp

/-- The count of two sectors, after it was written. -/
theorem taskFile_readsBack_iff_sectorCount :
    ReadsBack ((x86AtaInit []).setReg .sectorCount 0x02)
        (Given.start.afterWrite (x86AtaInit []) portRwSectorCount 0x02)
        .sectorCount ↔
      TaskReg.sectorCount = .sectorCount ∨
        TaskReg.sectorCount = .sectorNumber ∨
          TaskReg.sectorCount = .deviceHead ∧
            ∀ last,
              Given.start.afterWrite (x86AtaInit []) portRwSectorCount 0x02
                  .deviceHead = some last →
                last &&& 0x5F = 0 :=
  @taskFile_readsBack_iff []
    [(HostCalls.full, .outb portRwSectorCount 0x02)] [.none] _ _ rfl rfl
    .sectorCount (by decide)

/-- A read of Cylinder Low stops the process. -/
theorem taskFile_not_always_readsBack :
    ¬ ∀ (image : List Uint8) (inputs : List (HostCalls × Access))
        (responses : List Response) (cont : AtaController) (given : Given),
      run accessGiven (x86AtaInit image, Given.start) inputs =
          .ok (responses, (cont, given)) →
        cont.pCurrDev = .master →
          ∀ target : TaskReg, target ≠ .features →
            ReadsBack cont given target := by
  intro always
  have readsBack :=
    always [] [] [] (x86AtaInit []) Given.start rfl rfl .cylinderLow
      (by decide)
  obtain ⟨val, next, read, -⟩ := readsBack
  cases read

end Kvmulate.Ata
