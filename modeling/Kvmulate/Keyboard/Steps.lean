import Kvmulate.Keyboard.Controller

/-!
# What one step of the keyboard controller does

`Stepped` lists the steps that return, with the registers they leave.  The
invariants over runs are derived from that list.
-/

namespace Kvmulate.Keyboard

open DeviceLib

/-- The controller commands with a parameter. -/
def TakesParam (cmd : Uint8) : Prop :=
  cmd = 0x60 ∨ cmd = 0xD1 ∨ cmd = 0xD3 ∨ cmd = 0xD4

instance (cmd : Uint8) : Decidable (TakesParam cmd) :=
  inferInstanceAs (Decidable (_ ∨ _ ∨ _ ∨ _))

/-- The parameters of the controller expect a byte, those of the keyboard do,
or none. -/
inductive Route where
  | param
  | kbdParam
  | kbdCommand
deriving DecidableEq, Repr

/-- For what `kbd_outb` takes a byte written to the data port. -/
def KbdRegs.route (regs : KbdRegs) : Route :=
  if 0 < regs.cmdparamsLeft then .param
  else if 0 < regs.kbdparamsLeft then .kbdParam
  else .kbdCommand

/-- The registers behind `handle_command_withparams`. -/
def KbdRegs.received (regs : KbdRegs) (params : Vector Uint8 8) : KbdRegs :=
  { regs with
    cmdparams := params
    cmdparamsLeft := regs.cmdparamsLeft - 1
    commandByte :=
      if regs.cmdparamsCmd = 0x60 then params.head else regs.commandByte }

def KbdRegs.receivedKbd (regs : KbdRegs) (params : Vector Uint8 8) :
    KbdRegs :=
  { regs with
    kbdparams := params, kbdparamsLeft := regs.kbdparamsLeft - 1 }

/-- The registers behind a read that takes a byte, where it was the last one
and where it was not. -/
def KbdRegs.emptied (regs : KbdRegs) : KbdRegs :=
  { regs with
    ndxOutput := regs.ndxOutput - 1
    status := regs.status &&& ~~~1
    irq1 := false }

def KbdRegs.advanced (regs : KbdRegs) : KbdRegs :=
  { regs with ndxOutput := regs.ndxOutput - 1, irq1 := true }

/-- What `handle_command` does. -/
inductive Commanded (regs : KbdRegs) : Uint8 → KbdRegs → Prop
  | readByte :
      Commanded regs 0x20 ((regs.output regs.commandByte).expectParam 0x20)
  | expects {cmd : Uint8} :
      TakesParam cmd → Commanded regs cmd (regs.expectParam cmd)
  | answers {cmd val : Uint8} :
      cmd = 0xA9 ∧ val = 0x01 ∨ cmd = 0xAA ∧ val = 0x55 ∨
        cmd = 0xAB ∧ val = 0x00 →
      Commanded regs cmd (regs.output val)
  | silent {cmd : Uint8} :
      cmd = 0xAD ∨ cmd = 0xAE ∨ cmd = 0xFF → Commanded regs cmd regs

/-- What `handle_kbd_command` does. -/
inductive KbdCommanded (regs : KbdRegs) : Uint8 → KbdRegs → Prop
  | silent : KbdCommanded regs 0x05 regs
  | leds : KbdCommanded regs 0xED (regs.expectKbdParam 0xED)
  | scancode :
      KbdCommanded regs 0xF0 (regs.expectKbdParam 0xF0).acknowledge
  | acknowledges {cmd : Uint8} :
      cmd = 0xF2 ∨ cmd = 0xF4 ∨ cmd = 0xF5 →
      KbdCommanded regs cmd regs.acknowledge
  | restarts : KbdCommanded regs 0xFF regs.restart

/-- What a step that returns does. -/
inductive Stepped (regs : KbdRegs) :
    KbdStep → KbdResponse → KbdRegs → Prop
  | inject {sc : Uint8} {bIsPressed : Bool} :
      Stepped regs (.inject sc bIsPressed) none
        (kbdInject regs sc bIsPressed)
  | command {cmd : Uint8} {next : KbdRegs} :
      Commanded regs cmd next → Stepped regs (.outb 0x64 cmd) none next
  | param {val : Uint8} {params : Vector Uint8 8} :
      regs.route = .param → TakesParam regs.cmdparamsCmd →
      store regs.cmdparams (regs.cmdparamsLeft - 1) val = .ok params →
      Stepped regs (.outb 0x60 val) none (regs.received params)
  | kbdParam {val : Uint8} {params : Vector Uint8 8} :
      regs.route = .kbdParam →
      store regs.kbdparams (regs.kbdparamsLeft - 1) val = .ok params →
      Stepped regs (.outb 0x60 val) none
        (regs.receivedKbd params).acknowledge
  | kbdCommand {cmd : Uint8} {next : KbdRegs} :
      regs.route = .kbdCommand → KbdCommanded regs cmd next →
      Stepped regs (.outb 0x60 cmd) none next
  | status : Stepped regs (.inb 0x64) (some regs.status) regs
  | nothing :
      regs.ndxOutput < 0 → Stepped regs (.inb 0x60) (some 0x00) regs
  | last {val : Uint8} :
      regs.ndxOutput = 0 →
      load regs.bufOutput regs.ndxOutput = .ok val →
      Stepped regs (.inb 0x60) (some val) regs.emptied
  | more {val : Uint8} :
      0 < regs.ndxOutput →
      load regs.bufOutput regs.ndxOutput = .ok val →
      Stepped regs (.inb 0x60) (some val) regs.advanced

section Functions

variable {regs next : KbdRegs} {cmd : Uint8}

theorem commanded_of_handleCommand
    (called : handleCommand regs cmd = .ok next) :
    Commanded regs cmd next := by
  simp only [handleCommand] at called
  rcases Outcome.of_ite_eq_ok called with ⟨same, done⟩ | ⟨-, called⟩
  · cases done
    subst same
    exact .readByte
  rcases Outcome.of_ite_eq_ok called with ⟨same, done⟩ | ⟨-, called⟩
  · cases done
    exact .expects (Or.inl same)
  rcases Outcome.of_ite_eq_ok called with ⟨same, done⟩ | ⟨-, called⟩
  · cases done
    exact .answers (Or.inl ⟨same, rfl⟩)
  rcases Outcome.of_ite_eq_ok called with ⟨same, done⟩ | ⟨-, called⟩
  · cases done
    exact .answers (Or.inr (Or.inl ⟨same, rfl⟩))
  rcases Outcome.of_ite_eq_ok called with ⟨same, done⟩ | ⟨-, called⟩
  · cases done
    exact .silent (Or.inl same)
  rcases Outcome.of_ite_eq_ok called with ⟨same, done⟩ | ⟨-, called⟩
  · cases done
    exact .silent (Or.inr (Or.inl same))
  rcases Outcome.of_ite_eq_ok called with ⟨same, done⟩ | ⟨-, called⟩
  · cases done
    exact .answers (Or.inr (Or.inr ⟨same, rfl⟩))
  rcases Outcome.of_ite_eq_ok called with ⟨same, done⟩ | ⟨-, called⟩
  · cases done
    exact .expects (Or.inr (Or.inl same))
  rcases Outcome.of_ite_eq_ok called with ⟨same, done⟩ | ⟨-, called⟩
  · cases done
    exact .expects (Or.inr (Or.inr (Or.inl same)))
  rcases Outcome.of_ite_eq_ok called with ⟨same, done⟩ | ⟨-, called⟩
  · cases done
    exact .expects (Or.inr (Or.inr (Or.inr same)))
  rcases Outcome.of_ite_eq_ok called with ⟨same, done⟩ | ⟨-, called⟩
  · cases done
    exact .silent (Or.inr (Or.inr same))
  · cases called

theorem kbdCommanded_of_handleKbdCommand
    (called : handleKbdCommand regs cmd = .ok next) :
    KbdCommanded regs cmd next := by
  simp only [handleKbdCommand] at called
  rcases Outcome.of_ite_eq_ok called with ⟨same, done⟩ | ⟨-, called⟩
  · cases done
    subst same
    exact .silent
  rcases Outcome.of_ite_eq_ok called with ⟨same, done⟩ | ⟨-, called⟩
  · cases done
    subst same
    exact .leds
  rcases Outcome.of_ite_eq_ok called with ⟨same, done⟩ | ⟨-, called⟩
  · cases done
    subst same
    exact .scancode
  rcases Outcome.of_ite_eq_ok called with ⟨same, done⟩ | ⟨-, called⟩
  · cases done
    exact .acknowledges (Or.inl same)
  rcases Outcome.of_ite_eq_ok called with ⟨same, done⟩ | ⟨-, called⟩
  · cases done
    exact .acknowledges (Or.inr (Or.inl same))
  rcases Outcome.of_ite_eq_ok called with ⟨same, done⟩ | ⟨-, called⟩
  · cases done
    exact .acknowledges (Or.inr (Or.inr same))
  rcases Outcome.of_ite_eq_ok called with ⟨same, done⟩ | ⟨-, called⟩
  · cases done
    subst same
    exact .restarts
  · cases called

/-- A parameter is stored, and only those of `TakesParam` have any use
for it. -/
theorem received_of_handleCommandWithparams {params : Vector Uint8 8}
    (called :
      handleCommandWithparams
        { regs with
          cmdparams := params, cmdparamsLeft := regs.cmdparamsLeft - 1 }
        regs.cmdparamsCmd params = .ok next) :
    TakesParam regs.cmdparamsCmd ∧ next = regs.received params := by
  simp only [handleCommandWithparams] at called
  simp only [KbdRegs.received]
  rcases Outcome.of_ite_eq_ok called with ⟨same, done⟩ | ⟨other, called⟩
  · cases done
    rw [if_pos same]
    exact ⟨Or.inl same, rfl⟩
  rw [if_neg other]
  rcases Outcome.of_ite_eq_ok called with ⟨same, done⟩ | ⟨-, called⟩
  · cases done
    exact ⟨Or.inr (Or.inr (Or.inl same)), rfl⟩
  rcases Outcome.of_ite_eq_ok called with ⟨same, done⟩ | ⟨-, called⟩
  · cases done
    exact ⟨Or.inr (Or.inr (Or.inr same)), rfl⟩
  rcases Outcome.of_ite_eq_ok called with ⟨same, done⟩ | ⟨-, called⟩
  · cases done
    exact ⟨Or.inr (Or.inl same), rfl⟩
  · cases called

theorem acknowledged_of_handleKbdCommandWithparams
    (called : handleKbdCommandWithparams regs cmd = .ok next) :
    next = regs.acknowledge := by
  simp only [handleKbdCommandWithparams] at called
  rcases Outcome.of_ite_eq_ok called with ⟨-, done⟩ | ⟨-, called⟩
  · cases done
    rfl
  rcases Outcome.of_ite_eq_ok called with ⟨-, done⟩ | ⟨-, called⟩
  · cases done
    rfl
  · cases called

theorem stepped_of_kbdOutb {port : Uint16} {val : Uint8}
    (cmdparams : regs.cmdparamsLeft ≤ 1)
    (kbdparams : regs.kbdparamsLeft ≤ 1)
    (called : kbdOutb regs port val = .ok next) :
    Stepped regs (.outb port val) none next := by
  simp only [kbdOutb] at called
  rcases Outcome.of_ite_eq_ok called with ⟨command, called⟩ | ⟨-, called⟩
  · subst command
    exact .command (commanded_of_handleCommand called)
  rcases Outcome.of_ite_eq_ok called with
    ⟨⟨data, expected⟩, called⟩ | ⟨unexpected, called⟩
  · obtain ⟨params, stored, called⟩ := Outcome.bind_eq_ok_iff.mp called
    have last : regs.cmdparamsLeft - 1 ≤ 0 := by omega
    rw [if_pos last] at called
    obtain ⟨known, done⟩ := received_of_handleCommandWithparams called
    subst data done
    exact .param (if_pos expected) known stored
  rcases Outcome.of_ite_eq_ok called with
    ⟨⟨data, expected⟩, called⟩ | ⟨unexpectedKbd, called⟩
  · obtain ⟨params, stored, called⟩ := Outcome.bind_eq_ok_iff.mp called
    have last : regs.kbdparamsLeft - 1 ≤ 0 := by omega
    rw [if_pos last] at called
    have done := acknowledged_of_handleKbdCommandWithparams called
    subst data done
    have noParam : ¬ 0 < regs.cmdparamsLeft := fun expected =>
      unexpected ⟨rfl, expected⟩
    have route : regs.route = .kbdParam := by
      rw [KbdRegs.route, if_neg noParam, if_pos expected]
    exact .kbdParam route stored
  rcases Outcome.of_ite_eq_ok called with ⟨data, called⟩ | ⟨-, called⟩
  · have commanded := kbdCommanded_of_handleKbdCommand called
    subst data
    have noParam : ¬ 0 < regs.cmdparamsLeft := fun expected =>
      unexpected ⟨rfl, expected⟩
    have noKbdParam : ¬ 0 < regs.kbdparamsLeft := fun expected =>
      unexpectedKbd ⟨rfl, expected⟩
    have route : regs.route = .kbdCommand := by
      rw [KbdRegs.route, if_neg noParam, if_neg noKbdParam]
    exact .kbdCommand route commanded
  · cases called

theorem stepped_of_kbdInb {port : Uint16} {val : Uint8}
    (called : kbdInb regs port = .ok (val, next)) :
    Stepped regs (.inb port) (some val) next := by
  simp only [kbdInb] at called
  rcases Outcome.of_ite_eq_ok called with ⟨status, done⟩ | ⟨-, called⟩
  · cases done
    subst status
    exact .status
  rcases Outcome.of_ite_eq_ok called with ⟨data, called⟩ | ⟨-, called⟩
  swap
  · cases called
  rcases Outcome.of_ite_eq_ok called with ⟨below, done⟩ | ⟨inside, called⟩
  · cases done
    subst data
    exact .nothing below
  obtain ⟨ret, loaded, called⟩ := Outcome.bind_eq_ok_iff.mp called
  rcases Outcome.of_ite_eq_ok called with ⟨last, done⟩ | ⟨more, done⟩
  · cases done
    subst data
    exact .last (by omega) loaded
  · cases done
    subst data
    exact .more (by omega) loaded

/-- Every step that returns is in the list. -/
theorem stepped_of_kbdStep {step : KbdStep} {response : KbdResponse}
    (cmdparams : regs.cmdparamsLeft ≤ 1)
    (kbdparams : regs.kbdparamsLeft ≤ 1)
    (called : kbdStep regs step = .ok (response, next)) :
    Stepped regs step response next := by
  cases step with
  | inject sc bIsPressed =>
      cases called
      exact .inject
  | outb port val =>
      obtain ⟨written, wrote, done⟩ := Outcome.bind_eq_ok_iff.mp called
      cases done
      exact stepped_of_kbdOutb cmdparams kbdparams wrote
  | inb port =>
      obtain ⟨⟨val, after⟩, readByte, done⟩ :=
        Outcome.bind_eq_ok_iff.mp called
      cases done
      exact stepped_of_kbdInb readByte

end Functions

end Kvmulate.Keyboard
