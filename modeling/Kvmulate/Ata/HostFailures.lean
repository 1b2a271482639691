import Kvmulate.Ata.Commit
import Kvmulate.Ata.Programming
import Kvmulate.Ata.Registers

/-!
# Host calls that fail

A transfer calls `lseek64` and then `write` or `read` on the backing file.
The guest should learn from Status and Error when one of them did not do its
work; the controller prints a line at most and shows success.
-/

namespace Kvmulate.Ata

open DeviceLib

/-- ERR is set in the Status register. -/
def AtaDev.err (dev : AtaDev) : Prop :=
  dev.reg .status &&& bitStatusErr ≠ 0

instance (dev : AtaDev) : Decidable dev.err :=
  inferInstanceAs (Decidable (_ ≠ _))

/-- The call to the backing file writes all bytes of the command. -/
def WritesTransfer (state : AtaController × History) (host : HostCalls) :
    Prop :=
  state.1.master.backingfile.WritesAll host
    (512 * state.2.writeLba.toNat) (2 * state.2.writeWords)

/-- The last word of a write shows whether all bytes reached the file. -/
def ReportsWrite (state : AtaController × History)
    (input : HostCalls × Access) (next : AtaController) : Prop :=
  state.2.DeliversLast input.2 →
    (¬ next.master.err → WritesTransfer state input.1) ∧
      (¬ WritesTransfer state input.1 →
        next.master.err ∧ next.master.reg .error ≠ 0)

/-- A read offers its data without ERR only when the host delivered it. -/
def ReportsRead (state : AtaController × History)
    (input : HostCalls × Access) (next : AtaController) : Prop :=
  eventOf state.1 input.2 = .command cmdReadSectorsCode →
    next.master.drq → ¬ next.master.err →
      input.1.seekSucceeds = true ∧ input.1.xfer ≠ .fail

/-- An access that returns reports the failures of its host calls. -/
def ReportsFailures (state : AtaController × History)
    (input : HostCalls × Access) : Prop :=
  ∀ response next, access state.1 input = .ok (response, next) →
    ReportsWrite state input next ∧ ReportsRead state input next

/-- The host calls of the access do their work. -/
def HostServes (state : AtaController × History)
    (input : HostCalls × Access) : Prop :=
  (Commits state.1 input.2 → WritesTransfer state input.1) ∧
    (eventOf state.1 input.2 = .command cmdReadSectorsCode →
      input.1.seekSucceeds = true ∧ input.1.xfer ≠ .fail)

section Access

variable {cont next : AtaController} {history : History}
variable {host : HostCalls} {guest : Access} {response : Response}

theorem not_err_of_setStatus {dev : AtaDev} {reg : Regs} {val : Uint8}
    (set : dev.reg = Regs.setStatus reg val)
    (clear : val &&& bitStatusErr = 0) : ¬ dev.err := by
  rw [AtaDev.err, set, setStatus_status, clear]
  exact not_not_intro rfl

/-- A commit shows success, whatever the host did. -/
theorem not_err_of_commits (tracks : Tracks cont history)
    (commits : Commits cont guest)
    (called : access cont (host, guest) = .ok (response, next)) :
    ¬ next.master.err := by
  have regs := regs_of_access tracks.fixed called
  cases guest with
  | outw address val =>
      obtain ⟨selected, -⟩ := tracks.fixed.outw_eq_ok called
      obtain ⟨-, -, last⟩ := commits
      rw [currDev_of_master selected] at last
      rw [regsAfter, writeWordRegs, if_pos last] at regs
      exact not_err_of_setStatus regs (by decide)
  | outb => exact absurd commits not_false
  | inb => exact absurd commits not_false
  | inw => exact absurd commits not_false

/-- READ SECTORS offers data, whatever the host did. -/
theorem offered_of_readSectors (fixed : Fixed cont)
    (read : eventOf cont guest = .command cmdReadSectorsCode)
    (called : access cont (host, guest) = .ok (response, next)) :
    next.master.drq ∧ ¬ next.master.err := by
  have regs := regs_of_access fixed called
  cases guest with
  | outb address val =>
      simp only [regsAfter, read] at regs
      have offered :
          next.master.reg =
            Regs.setStatus
              (Function.update
                (Function.update cont.master.reg .command
                  cmdReadSectorsCode)
                .error 0)
              (bitStatusDrdy ||| bitStatusDrq) := regs
      refine ⟨?_, not_err_of_setStatus offered (by decide)⟩
      rw [AtaDev.drq, offered, setStatus_status]
      decide
  | inb => cases read
  | outw => cases read
  | inw => cases read

/-- A word that commits a write is accepted. -/
theorem returns_of_commits (fixed : Fixed cont)
    (commits : Commits cont guest) :
    ∃ response next, access cont (host, guest) = .ok (response, next) := by
  cases guest with
  | outw address val =>
      obtain ⟨port, inside, -⟩ := commits
      cases selected : cont.pCurrDev with
      | slave => exact absurd inside ((fixed.not_inside_slave selected).2 _)
      | master =>
          rw [currDev_of_master selected] at inside
          have called : pioOutw host cont address val = .ok _ :=
            (pioOutw_eq_ok_iff selected).mpr ⟨port, inside, rfl⟩
          simp only [access, called, Outcome.ok_bind, Outcome.pure_eq_ok]
          exact ⟨_, _, rfl⟩
  | outb => exact absurd commits not_false
  | inb => exact absurd commits not_false
  | inw => exact absurd commits not_false

/-- A command comes through the command port, to a device that is present. -/
theorem of_eventOf_command {cmd : Uint8}
    (event : eventOf cont guest = .command cmd) :
    guest = .outb portWCommand cmd ∧ cont.currDev.bIsPresent = true := by
  cases guest with
  | outb address val =>
      simp only [eventOf] at event
      split_ifs at event with other command
      cases event
      refine ⟨by rw [command], ?_⟩
      simp only [not_or, Bool.not_eq_false] at other
      exact other.2.2
  | inb => cases event
  | outw => cases event
  | inw => cases event

theorem returns_of_readSectors (fixed : Fixed cont)
    (read : eventOf cont guest = .command cmdReadSectorsCode) :
    ∃ response next, access cont (host, guest) = .ok (response, next) := by
  obtain ⟨rfl, present⟩ := of_eventOf_command read
  have selected := fixed.selects_master present
  exact ⟨_, _, access_readSectors host fixed selected⟩

end Access

theorem reportsFailures_iff {state : AtaController × History}
    {input : HostCalls × Access} (related : Related state) :
    ReportsFailures state input ↔ HostServes state input := by
  obtain ⟨cont, history⟩ := state
  obtain ⟨host, guest⟩ := input
  constructor
  · intro reports
    refine ⟨fun commits => ?_, fun read => ?_⟩
    · obtain ⟨response, next, called⟩ :=
        returns_of_commits related.fixed commits
      have last := (commits_iff_deliversLast related called).mp commits
      exact ((reports response next called).1 last).1
        (not_err_of_commits related commits called)
    · obtain ⟨response, next, called⟩ :=
        returns_of_readSectors related.fixed read
      obtain ⟨requested, clear⟩ :=
        offered_of_readSectors related.fixed read called
      exact (reports response next called).2 read requested clear
  · rintro ⟨writes, reads⟩ response next called
    refine ⟨fun last => ?_, fun read _ _ => reads read⟩
    have written :=
      writes ((commits_iff_deliversLast related called).mpr last)
    exact ⟨fun _ => written, fun lost => absurd written lost⟩

/-- In every run, whatever the host calls return, the failures are reported
exactly where there are none. -/
theorem failures_reported_iff (image : List Uint8)
    (inputs : List (HostCalls × Access)) :
    StepsMeet accessObserved ReportsFailures
        (x86AtaInit image, History.start) inputs ↔
      StepsMeet accessObserved HostServes
        (x86AtaInit image, History.start) inputs :=
  stepsMeet_congr related_step reportsFailures_iff (related_init image)

/-- READ SECTORS with a seek that fails. -/
theorem not_always_failures_reported :
    ¬ ∀ (image : List Uint8) (inputs : List (HostCalls × Access)),
      StepsMeet accessObserved ReportsFailures
        (x86AtaInit image, History.start) inputs := by
  intro always
  have met :=
    always []
      [(⟨false, .full⟩, .outb portWCommand cmdReadSectorsCode)]
  have serves := (reportsFailures_iff (related_init [])).mp met.1
  have event :
      eventOf (x86AtaInit []) (.outb portWCommand cmdReadSectorsCode) =
        .command cmdReadSectorsCode := rfl
  exact Bool.noConfusion (serves.2 event).1

end Kvmulate.Ata
