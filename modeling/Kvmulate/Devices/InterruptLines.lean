import Kvmulate.Devices.DiskReads
import Kvmulate.Floppy.Bounds
import Kvmulate.Keyboard.Flags
import Kvmulate.Lib.Latch

/-!
# The interrupt lines

The lines that the devices drive with `irq_set`: which steps raise and which
lower each of them, and what that says of a line after a whole run.
-/

/-! ## IRQ 14 -/

namespace Kvmulate.Ata

open DeviceLib

/-- A command that ends at once, the data of READ SECTORS, or the last word of
WRITE SECTORS. -/
def RaisesIrq (cont : AtaController) : Access → Prop
  | .outb address val =>
      ∃ cmd, eventOf cont (.outb address val) = .command cmd ∧
        (cmd = cmdRecalibrateCode ∨ cmd = cmdReadSectorsCode ∨
          cmd = cmdInitializeDevParamsCode)
  | .outw _ _ =>
      cont.master.writeBufferOffset + 2 = cont.master.writeBufferSize
  | _ => False

/-- Every other command, a reset, or Status read from a present device. -/
def LowersIrq (cont : AtaController) : Access → Prop
  | .outb address val =>
      (∃ cmd, eventOf cont (.outb address val) = .command cmd) ∨
        eventOf cont (.outb address val) = .reset
  | .inb address =>
      address = portRStatus ∧ cont.currDev.bIsPresent = true
  | _ => False

section Step

variable {cont next : AtaController} {host : HostCalls}
variable {guest : Access} {response : Response} {address : Uint16}
variable {val : Uint8}

theorem irq14_setReg (cont : AtaController) (reg : Reg) (val : Uint8) :
    (cont.setReg reg val).irq14 = cont.irq14 := by
  unfold AtaController.setReg AtaController.setCurrDev
  cases cont.pCurrDev <;> rfl

/-- A register write leaves the line alone. -/
theorem irq14_of_register
    (event : eventOf cont (.outb address val) = .register)
    (called : pioOutb host cont address val = .ok next) :
    next.irq14 = cont.irq14 := by
  unfold pioOutb at called
  simp only [eventOf] at event
  by_cases floppy : address = portFloppy0
  · rw [if_pos floppy] at called
    cases called
    rfl
  rw [if_neg floppy] at called
  by_cases head : address = portRwDeviceHead
  · rw [if_pos head] at called
    cases called
    exact irq14_setReg _ _ _
  rw [if_neg head] at called
  by_cases absent : cont.currDev.bIsPresent = false
  · rw [if_pos absent] at called
    cases called
    rfl
  rw [if_neg absent] at called
  rw [if_neg (by tauto)] at event
  by_cases command : address = portWCommand
  · rw [if_pos command] at event
    cases event
  rw [if_neg command] at called event
  by_cases control : address = portWDeviceControl
  · rw [if_pos control] at called
    have kept : ¬ val &&& bitDeviceControlSrst ≠ 0 := by
      intro srst
      rw [if_pos ⟨control, srst⟩] at event
      cases event
    simp only [if_neg kept, Outcome.pure_eq_ok, Outcome.ok_bind]
      at called
    cases called
    rw [irq14_setReg, irq14_setReg]
  rw [if_neg control] at called
  repeat' split at called
  all_goals cases called
  all_goals exact irq14_setReg _ _ _

/-- A command leaves the line as the command wants it. -/
theorem irq14_of_command (fixed : Fixed cont) {cmd : Uint8}
    (event : eventOf cont (.outb address val) = .command cmd)
    (called : pioOutb host cont address val = .ok next) :
    next.irq14 = true ↔ cmd = cmdRecalibrateCode ∨
      cmd = cmdReadSectorsCode ∨ cmd = cmdInitializeDevParamsCode := by
  simp only [eventOf] at event
  by_cases other : address = portFloppy0 ∨ address = portRwDeviceHead ∨
      cont.currDev.bIsPresent = false
  · rw [if_pos other] at event
    cases event
  rw [if_neg other] at event
  by_cases command : address = portWCommand
  swap
  · rw [if_neg command] at event
    split at event <;> cases event
  rw [if_pos command] at event
  obtain rfl := Event.command.inj event
  simp only [not_or] at other
  unfold pioOutb at called
  rw [if_neg other.1, if_neg other.2.1, if_neg other.2.2,
    if_pos command] at called
  have selected : cont.pCurrDev = .master :=
    fixed.selects_master (by simpa using other.2.2)
  cases executed_of_command fixed selected called with
  | acknowledged known =>
      refine iff_of_true rfl ?_
      rcases known with same | same
      · exact .inl same
      · exact .inr (.inr same)
  | readSectors => exact iff_of_true rfl (.inr (.inl rfl))
  | writeSectors => exact iff_of_false Bool.false_ne_true (by decide)
  | identify => exact iff_of_false Bool.false_ne_true (by decide)
  | refused => exact iff_of_false Bool.false_ne_true (by decide)

/-- A byte read lowers the line for Status only. -/
theorem irq14_of_pioInb {ret : Uint8}
    (called : pioInb cont address = .ok (ret, next)) :
    next.irq14 = true ↔ cont.irq14 = true ∧
      ¬ (address = portRStatus ∧ cont.currDev.bIsPresent = true) := by
  by_cases status : address = portRStatus ∧ cont.currDev.bIsPresent = true
  · have lowered : next.irq14 = false := by
      obtain ⟨rfl, present⟩ := status
      have absent : ¬ cont.currDev.bIsPresent = false := by
        rw [present]
        decide
      unfold pioInb at called
      rw [if_neg (by decide), if_neg (by decide), if_neg (by decide),
        if_neg absent, if_neg (by decide), if_neg (by decide),
        if_neg (by decide), if_pos rfl] at called
      cases called
      rfl
    rw [lowered]
    exact iff_of_false Bool.false_ne_true fun both => both.2 status
  · have kept : next = cont := by
      unfold pioInb at called
      rcases Outcome.of_ite_eq_ok called with ⟨-, done⟩ | ⟨-, called⟩
      · cases done
        rfl
      rcases Outcome.of_ite_eq_ok called with ⟨-, done⟩ | ⟨-, called⟩
      · cases done
        rfl
      rcases Outcome.of_ite_eq_ok called with ⟨-, done⟩ | ⟨-, called⟩
      · cases selected : cont.pCurrDev with
        | master =>
            rw [selected] at done
            cases done
            rfl
        | slave =>
            rw [selected] at done
            cases done
            rfl
      rcases Outcome.of_ite_eq_ok called with ⟨-, done⟩ | ⟨there, called⟩
      · cases done
        rfl
      rcases Outcome.of_ite_eq_ok called with ⟨-, done⟩ | ⟨-, called⟩
      · cases done
        rfl
      rcases Outcome.of_ite_eq_ok called with ⟨-, done⟩ | ⟨-, called⟩
      · cases done
        rfl
      rcases Outcome.of_ite_eq_ok called with ⟨-, done⟩ | ⟨-, called⟩
      · cases done
        rfl
      rcases Outcome.of_ite_eq_ok called with ⟨is, -⟩ | ⟨-, called⟩
      · exact absurd ⟨is, by simpa using there⟩ status
      rcases Outcome.of_ite_eq_ok called with ⟨-, done⟩ | ⟨-, called⟩
      · cases done
        rfl
      · cases called
    rw [kept, and_iff_left status]

/-- What an access does to the line. -/
theorem irq14_step (fixed : Fixed cont)
    (called : access cont (host, guest) = .ok (response, next)) :
    next.irq14 = true ↔
      RaisesIrq cont guest ∨ cont.irq14 = true ∧ ¬ LowersIrq cont guest := by
  cases guest with
  | outb address val =>
      obtain ⟨after, wrote, done⟩ := Outcome.bind_eq_ok_iff.mp called
      cases done
      cases event : eventOf cont (.outb address val) with
      | register =>
          rw [irq14_of_register event wrote]
          simp [RaisesIrq, LowersIrq, event]
      | command cmd =>
          rw [irq14_of_command fixed event wrote]
          simp [RaisesIrq, LowersIrq, event]
      | reset =>
          have served := served_of_access fixed called
          rw [event] at served
          cases served
          simp [RaisesIrq, LowersIrq, event]
      | dataIn =>
          simp only [eventOf] at event
          repeat' split at event
          all_goals cases event
      | dataOut word =>
          simp only [eventOf] at event
          repeat' split at event
          all_goals cases event
  | inb address =>
      obtain ⟨⟨ret, after⟩, read, done⟩ := Outcome.bind_eq_ok_iff.mp called
      cases done
      rw [irq14_of_pioInb read]
      simp [RaisesIrq, LowersIrq]
  | outw address val =>
      have served := served_of_access fixed called
      generalize same : eventOf cont (.outw address val) = event at served
      cases served with
      | dataOut _ _ more => simp [RaisesIrq, LowersIrq, more]
      | commit _ _ last => simp [RaisesIrq, LowersIrq, last]
      | register => cases same
      | reset => cases same
      | nonData => cases same
      | readSectors => cases same
      | identify => cases same
      | writeSectors => cases same
      | dataIn => cases same
  | inw address =>
      have served := served_of_access fixed called
      generalize same : eventOf cont (.inw address) = event at served
      cases served with
      | dataIn => simp [RaisesIrq, LowersIrq]
      | dataOut => cases same
      | commit => cases same
      | register => cases same
      | reset => cases same
      | nonData => cases same
      | readSectors => cases same
      | identify => cases same
      | writeSectors => cases same

end Step

end Kvmulate.Ata

/-! ## IRQ 1 -/

namespace Kvmulate.Keyboard

open DeviceLib

/-- A key event, or a byte read in front of another one. -/
def RaisesIrq (regs : KbdRegs) : KbdStep → Prop
  | .inject _ _ => True
  | .inb port => port = 0x60 ∧ 0 < regs.ndxOutput
  | .outb _ _ => False

/-- The last byte is read. -/
def LowersIrq (regs : KbdRegs) : KbdStep → Prop
  | .inb port => port = 0x60 ∧ regs.ndxOutput = 0
  | _ => False

section Step

variable {regs next : KbdRegs} {step : KbdStep} {response : KbdResponse}

theorem irq1_commanded {cmd : Uint8} (commanded : Commanded regs cmd next) :
    next.irq1 = regs.irq1 := by
  cases commanded <;> rfl

theorem irq1_kbdCommanded {cmd : Uint8}
    (commanded : KbdCommanded regs cmd next) : next.irq1 = regs.irq1 := by
  cases commanded <;> rfl

/-- What a step does to the line. -/
theorem irq1_step (invariant : Invariant regs)
    (called : kbdStep regs step = .ok (response, next)) :
    next.irq1 = true ↔
      RaisesIrq regs step ∨ regs.irq1 = true ∧ ¬ LowersIrq regs step := by
  cases invariant.2.stepped_of_kbdStep called with
  | inject => exact iff_of_true rfl (.inl trivial)
  | command commanded =>
      rw [irq1_commanded commanded]
      simp [RaisesIrq, LowersIrq]
  | param =>
      change regs.irq1 = true ↔ _
      simp [RaisesIrq, LowersIrq]
  | kbdParam =>
      change regs.irq1 = true ↔ _
      simp [RaisesIrq, LowersIrq]
  | kbdCommand _ commanded =>
      rw [irq1_kbdCommanded commanded]
      simp [RaisesIrq, LowersIrq]
  | status => simp [RaisesIrq, LowersIrq]
  | nothing below =>
      have neither : ¬ 0 < regs.ndxOutput ∧ ¬ regs.ndxOutput = 0 := by
        omega
      simp [RaisesIrq, LowersIrq, neither]
  | last index =>
      have lowered : regs.emptied.irq1 = false := rfl
      simp [RaisesIrq, LowersIrq, index, lowered]
  | more index =>
      have raised : regs.advanced.irq1 = true := rfl
      simp [RaisesIrq, LowersIrq, index, raised]

end Step

end Kvmulate.Keyboard

/-! ## IRQ 6 -/

namespace Kvmulate.Floppy

open DeviceLib

/-- The code that `doExecuteCommand` is called for when the byte is written to
the FIFO. -/
def executedBy (fdc : Fdc) (val : Uint8) : Option Uint8 :=
  if fdc.fifondx = 0 then
    if val &&& 0xF = cmdSenseInterrupt then some cmdSenseInterrupt
    else none
  else if fdc.fifolen ≤ fdc.fifondx + 1 then some (fdc.byte 0 &&& 0xF)
  else none

/-- The commands that end with an interrupt. -/
def Interrupts (cmd : Uint8) : Prop :=
  cmd = cmdReadData ∨ cmd = cmdRecalibrate ∨ cmd = cmdReadId ∨
    cmd = cmdSeek

instance (cmd : Uint8) : Decidable (Interrupts cmd) :=
  inferInstanceAs (Decidable (_ ∨ _ ∨ _ ∨ _))

/-- A reset, or the last byte of a command that ends with an interrupt. -/
def RaisesIrq (fdc : Fdc) : FloppyStep → Prop
  | .outb port val =>
      port = regDigitalOut ∧ val &&& dorNReset = 0 ∨
        port = regDataFifo ∧
          ∃ cmd, executedBy fdc val = some cmd ∧ Interrupts cmd
  | _ => False

/-- SENSE INTERRUPT, or the last result byte is read. -/
def LowersIrq (fdc : Fdc) : FloppyStep → Prop
  | .outb port val =>
      port = regDataFifo ∧ executedBy fdc val = some cmdSenseInterrupt
  | .inb port => port = regDataFifo ∧ fdc.fifolen ≤ fdc.fifondx + 1
  | .program _ => False

section Step

variable {sys next called : FloppySystem} {host : HostCalls}
variable {val : Uint8} {port : Uint16} {fdc after : Fdc}

theorem irq6_readData (done : readData host sys = .ok next) :
    next.fdc.irq6 = true := by
  obtain ⟨_, -, done⟩ := Outcome.bind_eq_ok_iff.mp done
  obtain ⟨filled, -, done⟩ := Outcome.bind_eq_ok_iff.mp done
  obtain ⟨lowMem, -, done⟩ := Outcome.bind_eq_ok_iff.mp done
  cases done
  rfl

/-- A command sets the line as it ends. -/
theorem irq6_doExecuteCommand
    (done : doExecuteCommand host sys = .ok next) :
    next.fdc.irq6 = true ↔
      Interrupts (sys.fdc.byte 0 &&& 0xF) ∨
        sys.fdc.irq6 = true ∧
          ¬ sys.fdc.byte 0 &&& 0xF = cmdSenseInterrupt := by
  simp only [doExecuteCommand,
    sys.fdc.getElem_fifo (by decide : 0 < 522)] at done
  generalize sys.fdc.byte 0 &&& 0xF = cmd at done ⊢
  rcases Outcome.of_ite_eq_ok done with ⟨is, done⟩ | ⟨notRead, done⟩
  · exact iff_of_true (irq6_readData done) (.inl (.inl is))
  rcases Outcome.of_ite_eq_ok done with ⟨is, done⟩ | ⟨notRecal, done⟩
  · cases done
    exact iff_of_true rfl (.inl (.inr (.inl is)))
  rcases Outcome.of_ite_eq_ok done with ⟨is, done⟩ | ⟨notSense, done⟩
  · cases done
    refine iff_of_false Bool.false_ne_true ?_
    rw [is]
    exact fun either => either.elim (by decide) fun both => both.2 rfl
  rcases Outcome.of_ite_eq_ok done with ⟨is, done⟩ | ⟨notId, done⟩
  · cases done
    exact iff_of_true rfl (.inl (.inr (.inr (.inl is))))
  rcases Outcome.of_ite_eq_ok done with ⟨is, done⟩ | ⟨notSeek, done⟩
  · cases done
    exact iff_of_true rfl (.inl (.inr (.inr (.inr is))))
  · cases done
    simp [Interrupts, notRead, notRecal, notSense, notId, notSeek]

/-- Only SENSE INTERRUPT is complete with its first byte. -/
theorem commandLength_le_one {length : Int}
    (known : commandLength val = .ok length) :
    length ≤ 1 ↔ val &&& 0xF = cmdSenseInterrupt := by
  unfold commandLength at known
  rcases Outcome.of_ite_eq_ok known with ⟨is, done⟩ | ⟨-, known⟩
  · cases done
    rw [is]
    decide
  rcases Outcome.of_ite_eq_ok known with ⟨is, done⟩ | ⟨-, known⟩
  · cases done
    rw [is]
    decide
  rcases Outcome.of_ite_eq_ok known with ⟨is, done⟩ | ⟨-, known⟩
  · cases done
    exact iff_of_true (by decide) is
  rcases Outcome.of_ite_eq_ok known with ⟨is, done⟩ | ⟨-, known⟩
  · cases done
    rw [is]
    decide
  rcases Outcome.of_ite_eq_ok known with ⟨is, done⟩ | ⟨-, known⟩
  · cases done
    rw [is]
    decide
  · cases known

theorem byte_zero_of_store_zero
    (stored : store fdc.fifo 0 val = .ok after.fifo) :
    after.byte 0 = val := by
  have list := congrArg Vector.toList (Except.ok.inj stored)
  unfold Fdc.byte
  rw [← list, Int.toNat_zero, Vector.toList_setIfInBounds,
    List.getD_eq_getElem?_getD, List.getElem?_set_self]
  · rfl
  · rw [Vector.length_toList]
    decide

/-- What a byte written to the FIFO does to the line. -/
theorem irq6_writeFifo (done : writeFifo host sys val = .ok next) :
    next.fdc.irq6 = true ↔
      (∃ cmd, executedBy sys.fdc val = some cmd ∧ Interrupts cmd) ∨
        sys.fdc.irq6 = true ∧
          ¬ executedBy sys.fdc val = some cmdSenseInterrupt := by
  obtain ⟨begun, began, done⟩ := Outcome.bind_eq_ok_iff.mp done
  obtain ⟨fifo, stored, done⟩ := Outcome.bind_eq_ok_iff.mp done
  unfold beginCommand at began
  unfold executedBy
  rcases Outcome.of_ite_eq_ok began with ⟨idle, began⟩ | ⟨open', began⟩
  · obtain ⟨fifolen, known, built⟩ := Outcome.bind_eq_ok_iff.mp began
    cases built
    simp only [idle] at stored done
    have first := @byte_zero_of_store_zero val sys.fdc
      { sys.fdc with
        fifo := fifo, fifolen := fifolen, msr := sys.fdc.msr ||| msrCb
        fifondx := 0 + 1 } stored
    have single := commandLength_le_one known
    rw [if_pos idle]
    rcases Outcome.of_ite_eq_ok done with ⟨whole, done⟩ | ⟨more, done⟩
    · have sense := single.mp (by omega)
      have executed := irq6_doExecuteCommand done
      simp only [first, sense, not_true_eq_false, and_false, or_false]
        at executed
      rw [executed, if_pos sense]
      simp
    · have other : ¬ val &&& 0xF = cmdSenseInterrupt := fun sense =>
        more (by have := single.mpr sense; omega)
      cases done
      rw [if_neg other]
      simp
  · cases began
    have positive : 0 < sys.fdc.fifondx := by
      have inside := (indexes_of_store stored).1
      omega
    have first : Fdc.byte
        { sys.fdc with fifo := fifo, fifondx := sys.fdc.fifondx + 1 } 0 =
          sys.fdc.byte 0 := byte_zero_of_store positive stored
    rw [if_neg open']
    rcases Outcome.of_ite_eq_ok done with ⟨whole, done⟩ | ⟨more, done⟩
    · have executed := irq6_doExecuteCommand done
      simp only [first] at executed
      rw [executed, if_pos whole]
      simp
    · cases done
      rw [if_neg more]
      simp

theorem irq6_writeDor (fdc : Fdc) (val : Uint8) :
    (writeDor fdc val).irq6 = true ↔
      val &&& dorNReset = 0 ∨ fdc.irq6 = true := by
  unfold writeDor
  by_cases reset : val &&& dorNReset = 0
  · rw [if_pos reset]
    exact iff_of_true rfl (.inl reset)
  · rw [if_neg reset]
    exact (or_iff_right reset).symm

/-- What a write does to the line. -/
theorem irq6_floppyOutb (done : floppyOutb host sys port val = .ok next) :
    next.fdc.irq6 = true ↔ RaisesIrq sys.fdc (.outb port val) ∨
      sys.fdc.irq6 = true ∧ ¬ LowersIrq sys.fdc (.outb port val) := by
  have different : regDataFifo ≠ regDigitalOut := by decide
  unfold floppyOutb at done
  unfold RaisesIrq LowersIrq
  rcases Outcome.of_ite_eq_ok done with ⟨output, done⟩ | ⟨other, done⟩
  · cases done
    have fifo : ¬ port = regDataFifo := fun same =>
      different (same.symm.trans output)
    rw [irq6_writeDor]
    simp [output, different.symm]
  rcases Outcome.of_ite_eq_ok done with ⟨fifo, done⟩ | ⟨notFifo, done⟩
  · rw [irq6_writeFifo done]
    simp [fifo, different]
  rcases Outcome.of_ite_eq_ok done with ⟨-, done⟩ | ⟨-, done⟩
  · cases done
    simp [other, notFifo]
  · cases done

/-- What a read does to the line. -/
theorem irq6_floppyInb (done : floppyInb fdc port = .ok (val, after)) :
    after.irq6 = true ↔ RaisesIrq fdc (.inb port) ∨
      fdc.irq6 = true ∧ ¬ LowersIrq fdc (.inb port) := by
  unfold floppyInb at done
  unfold RaisesIrq LowersIrq
  rcases Outcome.of_ite_eq_ok done with ⟨status, done⟩ | ⟨-, done⟩
  · cases done
    rw [status]
    simp [show regMainStatus ≠ regDataFifo by decide]
  rcases Outcome.of_ite_eq_ok done with ⟨output, done⟩ | ⟨-, done⟩
  · cases done
    rw [output]
    simp [show regDigitalOut ≠ regDataFifo by decide]
  rcases Outcome.of_ite_eq_ok done with ⟨fifo, done⟩ | ⟨-, done⟩
  · obtain ⟨_, -, done⟩ := Outcome.bind_eq_ok_iff.mp done
    rcases Outcome.of_ite_eq_ok done with ⟨last, done⟩ | ⟨more, done⟩
    · cases done
      simp [fifo, last]
    · cases done
      simp [fifo, more]
  · cases done

end Step

end Kvmulate.Floppy

/-! ## The lines of the machine -/

namespace Kvmulate.Devices

open DeviceLib Kvmulate.Io Kvmulate.System

inductive IrqLine where
  | irq1
  | irq6
  | irq14
deriving DecidableEq, Repr

/-- The level last given to `irq_set`. -/
def Machine.level (machine : Machine) : IrqLine → Bool
  | .irq1 => machine.kbd.irq1
  | .irq6 => machine.fdc.irq6
  | .irq14 => machine.ata.irq14

/-- The access as the floppy controller sees it. -/
def floppyInput : DeviceStep → Option Floppy.FloppyStep
  | .port _ (.outb port val) =>
      if servedBy port = some 19 then some (.outb port val) else none
  | .port _ (.inb port) =>
      if servedBy port = some 19 then some (.inb port) else none
  | _ => none

def Raises (line : IrqLine) (machine : Machine) (step : DeviceStep) :
    Prop :=
  match line with
  | .irq1 =>
      ∃ own, kbdAlone.takes step = some own ∧
        Keyboard.RaisesIrq machine.kbd own
  | .irq6 =>
      ∃ own, floppyInput step = some own ∧
        Floppy.RaisesIrq machine.fdc own
  | .irq14 =>
      ∃ own, ataAlone.takes step = some own ∧
        Ata.RaisesIrq machine.ata own.2

def Lowers (line : IrqLine) (machine : Machine) (step : DeviceStep) :
    Prop :=
  match line with
  | .irq1 =>
      ∃ own, kbdAlone.takes step = some own ∧
        Keyboard.LowersIrq machine.kbd own
  | .irq6 =>
      ∃ own, floppyInput step = some own ∧
        Floppy.LowersIrq machine.fdc own
  | .irq14 =>
      ∃ own, ataAlone.takes step = some own ∧
        Ata.LowersIrq machine.ata own.2

/-- What the controllers keep in every reachable state. -/
structure Ready (machine : Machine) : Prop where
  ata : Ata.Tracked machine.ata
  kbd : Keyboard.Invariant machine.kbd

section Lines

variable {machine next : Machine} {step : DeviceStep}
variable {response : Vga.VideoResponse} {host : Host}
variable {access : IoAccess} {data : IoData} {port : Uint16} {val : Uint8}

theorem ready_start {around : Surroundings}
    (start : Machine.start around = .ok machine) : Ready machine where
  ata := tracked_start start
  kbd := by
    rw [(started_of_start start).kbd]
    exact Keyboard.invariant_init

theorem ready_deviceStep (ready : Ready machine)
    (stepped : deviceStep machine step = .ok (response, next)) :
    Ready next where
  ata := @Component.preserves _ _ _ _ _ _ _ _ ataAlone _ _ _ _
    Ata.Tracked (fun tracked called => tracked.step called) ready.ata
    stepped
  kbd := @Component.preserves _ _ _ _ _ _ _ _ kbdAlone _ _ _ _
    Keyboard.Invariant
    (fun invariant called => Keyboard.invariant_kbdStep invariant called)
    ready.kbd stepped

/-- A line that a component drives. -/
theorem latches_component {Part Input Output : Type}
    {part : Call Part Input Output} (component : Component deviceStep part)
    {level : Part → Prop} {raises lowers : Part → Input → Prop}
    (law : ∀ {own answer after},
      part (component.get machine) own = .ok (answer, after) →
        (level after ↔ raises (component.get machine) own ∨
          level (component.get machine) ∧
            ¬ lowers (component.get machine) own))
    (stepped : deviceStep machine step = .ok (response, next)) :
    level (component.get next) ↔
      (∃ own, component.takes step = some own ∧
          raises (component.get machine) own) ∨
        level (component.get machine) ∧
          ¬ ∃ own, component.takes step = some own ∧
            lowers (component.get machine) own := by
  cases taken : component.takes step with
  | none =>
      rw [component.spares taken stepped]
      simp
  | some own =>
      obtain ⟨answer, after, served, -, rfl⟩ :=
        (Component.serves_eq_ok_iff taken).mp stepped
      rw [component.get_set, law served]
      simp

theorem fdc_of_offPorts
    (stepped : deviceStep machine step = .ok (response, next))
    (off : step.OffPorts) : next.fdc = machine.fdc :=
  @view_of_offPorts _ _ _ _ Machine.fdc _ (fun _ _ => rfl)
    (fun _ _ => rfl) (fun _ _ => rfl) stepped off

theorem fdc_spared : SparedBy [19] Machine.fdc where
  cmos := .inr fun _ _ => rfl
  a20 := .inr fun _ _ => rfl
  dma := .inr fun _ _ => rfl
  pci := .inr fun _ _ => rfl
  para := .inr fun _ _ => rfl
  kbd := .inr fun _ _ => rfl
  vga := .inr fun _ _ => rfl
  floppy := .inl List.mem_cons_self
  ata := .inr fun _ _ => rfl

/-- What a port access of the machine does to the floppy controller, the
controller does with its own entry points. -/
theorem portAccess_floppy (served : servedBy access.port = some 19) :
    portAccess host machine access = (do
      let (data, after) ←
        (floppyHandler host).serve (floppyPart.get machine) access
      pure (data, floppyPart.set after machine)) :=
  portAccess_onPart served rfl

theorem floppyOutb_of_port (served : servedBy port = some 19)
    (accessed : portAccess host machine (.outb port val) =
      .ok (data, next)) :
    ∃ after, Floppy.floppyOutb host.calls (floppyPart.get machine) port
        val = .ok after ∧ next = floppyPart.set after machine := by
  rw [@portAccess_floppy machine host (.outb port val) served] at accessed
  simp only [IoHandler.serve, floppyHandler, callOut,
    BitVec.sub_add_cancel, bind_assoc, pure_bind] at accessed
  obtain ⟨after, called, built⟩ := Outcome.bind_eq_ok_iff.mp accessed
  cases built
  exact ⟨after, called, rfl⟩

theorem floppyInb_of_port (served : servedBy port = some 19)
    (accessed : portAccess host machine (.inb port) = .ok (data, next)) :
    ∃ val after, Floppy.floppyInb machine.fdc port = .ok (val, after) ∧
      next.fdc = after := by
  rw [@portAccess_floppy machine host (.inb port) served] at accessed
  simp only [IoHandler.serve, floppyHandler, callIn,
    BitVec.sub_add_cancel, bind_assoc, pure_bind] at accessed
  obtain ⟨⟨val, after⟩, called, built⟩ := Outcome.bind_eq_ok_iff.mp accessed
  cases built
  exact ⟨val, after, called, rfl⟩

/-- The controller has no entry points for wider accesses. -/
theorem fdc_of_apart (apart : floppyInput step = none)
    (stepped : deviceStep machine step = .ok (response, next)) :
    next.fdc = machine.fdc := by
  cases step with
  | port host access =>
      obtain ⟨data, accessed, -⟩ := deviceStep_port_eq_ok_iff.mp stepped
      by_cases served : servedBy access.port = some 19
      · rw [portAccess_floppy served] at accessed
        cases access with
        | outb port val => cases (if_pos served).symm.trans apart
        | inb port => cases (if_pos served).symm.trans apart
        | outw => cases accessed
        | outl => cases accessed
        | inw => cases accessed
        | inl => cases accessed
      · refine view_of_apart fdc_spared ?_ accessed
        intro index mem elsewhere
        rw [List.mem_singleton.mp mem] at elsewhere
        exact served elsewhere
  | write => exact fdc_of_offPorts stepped trivial
  | read => exact fdc_of_offPorts stepped trivial
  | key => exact fdc_of_offPorts stepped trivial
  | ram => exact fdc_of_offPorts stepped trivial

theorem irq6_deviceStep
    (stepped : deviceStep machine step = .ok (response, next)) :
    next.fdc.irq6 = true ↔
      (∃ own, floppyInput step = some own ∧
          Floppy.RaisesIrq machine.fdc own) ∨
        machine.fdc.irq6 = true ∧
          ¬ ∃ own, floppyInput step = some own ∧
            Floppy.LowersIrq machine.fdc own := by
  cases taken : floppyInput step with
  | none =>
      rw [fdc_of_apart taken stepped]
      simp
  | some own =>
      cases step with
      | port host access =>
          obtain ⟨data, accessed, -⟩ :=
            deviceStep_port_eq_ok_iff.mp stepped
          cases access with
          | outb port val =>
              obtain ⟨served, same⟩ :=
                Option.ite_none_right_eq_some.mp taken
              cases same
              obtain ⟨after, called, rfl⟩ :=
                floppyOutb_of_port served accessed
              have law := Floppy.irq6_floppyOutb called
              change after.fdc.irq6 = true ↔ Floppy.RaisesIrq machine.fdc _ ∨
                machine.fdc.irq6 = true ∧
                  ¬ Floppy.LowersIrq machine.fdc _ at law
              change after.fdc.irq6 = true ↔ _
              rw [law]
              simp
          | inb port =>
              obtain ⟨served, same⟩ :=
                Option.ite_none_right_eq_some.mp taken
              cases same
              obtain ⟨val, after, called, kept⟩ :=
                floppyInb_of_port served accessed
              have law := Floppy.irq6_floppyInb called
              rw [kept, law]
              simp
          | outw => cases taken
          | outl => cases taken
          | inw => cases taken
          | inl => cases taken
      | key => cases taken
      | write => cases taken
      | read => cases taken
      | ram => cases taken

/-- What one step does to the lines. -/
theorem level_step (ready : Ready machine) (line : IrqLine)
    (stepped : deviceStep machine step = .ok (response, next)) :
    next.level line = true ↔ Raises line machine step ∨
      machine.level line = true ∧ ¬ Lowers line machine step := by
  cases line with
  | irq1 =>
      exact @latches_component _ _ _ _ _ _ _ _ kbdAlone
        (fun regs => regs.irq1 = true) Keyboard.RaisesIrq
        Keyboard.LowersIrq (fun called => Keyboard.irq1_step ready.kbd called)
        stepped
  | irq14 =>
      obtain ⟨history, tracks⟩ := ready.ata
      exact @latches_component _ _ _ _ _ _ _ _ ataAlone
        (fun cont => cont.irq14 = true)
        (fun cont own => Ata.RaisesIrq cont own.2)
        (fun cont own => Ata.LowersIrq cont own.2)
        (fun called => Ata.irq14_step tracks.fixed called) stepped
  | irq6 => exact irq6_deviceStep stepped

theorem level_start {around : Surroundings}
    (start : Machine.start around = .ok machine) (line : IrqLine) :
    machine.level line = false := by
  obtain ⟨video, -, built⟩ := Outcome.bind_eq_ok_iff.mp start
  cases built
  cases line with
  | irq1 => rfl
  | irq6 => rfl
  | irq14 => rfl

/-- A line is up after a run of the machine exactly when its device has raised
it and has not lowered it since. -/
theorem line_raised_iff {around : Surroundings} {final : Machine}
    {given : List DeviceStep} {delivered : List Vga.VideoResponse}
    (start : Machine.start around = .ok machine)
    (ran : run deviceStep machine given = .ok (delivered, final))
    (line : IrqLine) :
    final.level line = true ↔
      Latched deviceStep (Raises line) (Lowers line) False machine given := by
  have level := @latched_iff _ _ _ deviceStep (Raises line) (Lowers line)
    Ready (fun machine => machine.level line = true)
    ready_deviceStep (fun ready stepped => level_step ready line stepped)
    _ _ _ _ (ready_start start) ran
  rw [level]
  refine latched_congr (iff_of_false ?_ not_false)
  rw [level_start start line]
  exact Bool.false_ne_true

theorem line_raised_iff_key :
    ∃ machine final delivered, Machine.start bare = .ok machine ∧
      run deviceStep machine
          [.key 0x1E true, .port Host.atNoon (.outb 0x92 2)] =
        .ok (delivered, final) ∧
      (final.level .irq1 = true ↔
        Latched deviceStep (Raises .irq1) (Lowers .irq1) False machine
          [.key 0x1E true, .port Host.atNoon (.outb 0x92 2)]) := by
  obtain ⟨machine, start⟩ := exists_start_bare
  have pressed : deviceStep machine (.key 0x1E true) =
      .ok (.data .none,
        { machine with
          kbd := Keyboard.kbdInject machine.kbd 0x1E true }) := rfl
  have opened := (@Component.serves_eq_ok_iff _ _ _ _ _ _ _ _
    a20Slot.component
    { machine with kbd := Keyboard.kbdInject machine.kbd 0x1E true } _
    (.port Host.atNoon (.outb 0x92 2)) (Host.atNoon, .outb 0x92 2)
    (.data .none) rfl).mpr ⟨_, 1, rfl, rfl, rfl⟩
  have ran := run_cons pressed (run_one opened)
  exact ⟨machine, _, _, start, ran, line_raised_iff start ran .irq1⟩

end Lines

end Kvmulate.Devices
