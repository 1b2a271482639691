import Kvmulate.Ata.Steps

/-!
# The registers of the disk after an access

`regsAfter` follows the task file of the master alone: which register takes a
byte that is written, and what a command, a reset and the data port leave in
it.  `regs_of_access` says that the controller does the same.
-/

namespace Kvmulate.Ata

open DeviceLib

/-- The ports whose bytes go to a register. -/
def writePorts : Reg → List Uint16
  | .features => [portWFeatures, portWDeviceControl]
  | .sectorCount => [portRwSectorCount]
  | .sectorNumber => [portRwSectorNumber]
  | .cylinderLow => [portRwCylinderLow]
  | .cylinderHigh => [portRwCylinderHigh]
  | .deviceHead => [portRwDeviceHead]
  | .deviceControl => [portWDeviceControl]
  | _ => []

/-- The device that a byte written to the port is for. -/
def addressed (cont : AtaController) (address : Uint16) (val : Uint8) :
    CurrDev :=
  if address = portRwDeviceHead then selectedBy val else cont.pCurrDev

/-- The byte that is written to the port goes to this register of the
master. -/
def Takes (cont : AtaController) (address : Uint16) (val : Uint8)
    (target : Reg) : Prop :=
  addressed cont address val = .master ∧ address ∈ writePorts target

instance (cont : AtaController) (address : Uint16) (val : Uint8)
    (target : Reg) : Decidable (Takes cont address val target) :=
  inferInstanceAs (Decidable (_ ∧ _))

/-- The registers after a byte that they take at most. -/
def takenRegs (cont : AtaController) (address : Uint16) (val : Uint8) :
    Regs :=
  fun target =>
    if Takes cont address val target then val else cont.master.reg target

/-- The registers after a command on the disk. -/
def commandRegs (reg : Regs) (cmd : Uint8) : Regs :=
  let stored := Function.update reg .command cmd
  if cmd = cmdIdentifyPacketDeviceCode then
    Function.update (Function.update stored .error bitErrorAbrt)
      .status (bitStatusErr ||| bitStatusDrdy)
  else if cmd = cmdReadSectorsCode ∨ cmd = cmdWriteSectorsCode ∨
      cmd = cmdIdentifyDeviceCode then offeredRegs stored
  else Regs.setStatus (Function.update stored .error 0) bitStatusDrdy

/-- The registers after a word was written to the data port. -/
def writeWordRegs (dev : AtaDev) : Regs :=
  if dev.writeBufferOffset + 2 = dev.writeBufferSize then
    Regs.setStatus dev.reg bitStatusDrdy
  else dev.reg

/-- The registers of the master after an access. -/
def regsAfter (cont : AtaController) : Access → Regs
  | .outb address val =>
      match eventOf cont (.outb address val) with
      | .command cmd => commandRegs cont.master.reg cmd
      | .reset => resetRegs val
      | _ => takenRegs cont address val
  | .inb _ => cont.master.reg
  | .outw _ _ => writeWordRegs cont.master
  | .inw _ => readWordRegs cont.master

/-! ## The controller agrees -/

theorem regs_of_command {host : HostCalls} {cont next : AtaController}
    {cmd : Uint8} (fixed : Fixed cont)
    (selected : cont.pCurrDev = .master)
    (called :
      doCommand host ((cont.setReg .command cmd).irqSet false) cmd =
        .ok next) :
    next.master.reg = commandRegs cont.master.reg cmd := by
  cases executed_of_command fixed selected called with
  | acknowledged known =>
      rcases known with rfl | rfl
      all_goals rfl
  | writeSectors => rfl
  | readSectors => rfl
  | identify => rfl
  | refused => rfl

section Write

variable {host : HostCalls} {cont next : AtaController}
variable {address : Uint16} {val : Uint8}

/-- A byte that one register takes. -/
theorem takenRegs_of_one {reg : Reg}
    (toMaster : addressed cont address val = .master)
    (ports : ∀ target, address ∈ writePorts target ↔ target = reg) :
    takenRegs cont address val =
      Function.update cont.master.reg reg val := by
  funext target
  simp only [takenRegs, Takes, toMaster, ports, true_and,
    Function.update_apply]

/-- A byte that no register of the master takes. -/
theorem takenRegs_of_none
    (none : ∀ target, ¬ Takes cont address val target) :
    takenRegs cont address val = cont.master.reg := by
  funext target
  exact if_neg (none target)

/-- A byte for the Device Control register, which Features takes too. -/
theorem takenRegs_deviceControl
    (toMaster : addressed cont portWDeviceControl val = .master) :
    takenRegs cont portWDeviceControl val =
      Function.update (Function.update cont.master.reg .deviceControl val)
        .features val := by
  have ports : ∀ target, portWDeviceControl ∈ writePorts target ↔
      target = .features ∨ target = .deviceControl := by
    intro target
    cases target <;> decide
  funext target
  simp only [takenRegs, Takes, toMaster, ports, true_and,
    Function.update_apply]
  split_ifs <;> tauto

/-- A byte for the Device/Head register of the device that it selects. -/
theorem takenRegs_deviceHead :
    (({ cont with pCurrDev := selectedBy val }).setReg
      .deviceHead val).master.reg =
      takenRegs cont portRwDeviceHead val := by
  have device :
      addressed cont portRwDeviceHead val = selectedBy val := if_pos rfl
  cases selected : selectedBy val with
  | master =>
      rw [selected] at device
      rw [setReg_of_master rfl, takenRegs_of_one device]
      intro target
      cases target <;> decide
  | slave =>
      rw [selected] at device
      rw [takenRegs_of_none]
      · rfl
      · intro target takes
        rw [Takes, device] at takes
        cases takes.1

/-- Port 0x3F2 belongs to the floppy controller. -/
theorem takenRegs_floppy (floppy : address = portFloppy0) :
    takenRegs cont address val = cont.master.reg := by
  subst floppy
  refine takenRegs_of_none fun target takes => ?_
  have mem := takes.2
  cases target <;> exact absurd mem (by decide)

/-- Other registers than Device/Head need a device that is present. -/
theorem takenRegs_absent (fixed : Fixed cont)
    (notHead : address ≠ portRwDeviceHead)
    (absent : cont.currDev.bIsPresent = false) :
    takenRegs cont address val = cont.master.reg := by
  refine takenRegs_of_none fun target takes => ?_
  have toMaster := takes.1
  rw [addressed, if_neg notHead] at toMaster
  rw [currDev_of_master toMaster, fixed.masterPresent] at absent
  cases absent

/-- The port of one register, on the master. -/
theorem regs_of_port {port : Uint16} {reg : Reg}
    (selected : cont.pCurrDev = .master) (same : address = port)
    (notHead : port ≠ portRwDeviceHead)
    (ports : ∀ target, port ∈ writePorts target ↔ target = reg)
    (done : (pure (cont.setReg reg val) : Outcome AtaController) =
      .ok next) :
    next.master.reg = takenRegs cont address val := by
  subst same
  cases done
  rw [setReg_of_master selected, takenRegs_of_one _ ports]
  rw [addressed, if_neg notHead]
  exact selected

/-- The port of the Device Control register, on the master. -/
theorem regs_of_control (selected : cont.pCurrDev = .master)
    (done :
      (do
        let cont ←
          if val &&& bitDeviceControlSrst ≠ 0 then doSoftreset cont
          else pure cont
        pure ((cont.setReg .deviceControl val).setReg .features val)) =
        Except.ok next) :
    next.master.reg =
      if val &&& bitDeviceControlSrst ≠ 0 then resetRegs val
      else takenRegs cont portWDeviceControl val := by
  by_cases srst : val &&& bitDeviceControlSrst ≠ 0
  · simp only [if_pos srst, Outcome.bind_eq_ok_iff] at done ⊢
    obtain ⟨reset, asked, written⟩ := done
    cases written
    obtain ⟨buffer, -, -, rfl⟩ :=
      (doSoftreset_eq_ok_iff selected).mp asked
    rw [setReg_of_master (by simpa using selected),
      setReg_of_master (by exact selected)]
    rfl
  · simp only [if_neg srst, Outcome.pure_eq_ok, Outcome.ok_bind] at done ⊢
    cases done
    rw [setReg_of_master (by simpa using selected),
      setReg_of_master selected, takenRegs_deviceControl]
    rw [addressed, if_neg (by decide)]
    exact selected

/-- A byte write, port by port as `pio_outb` tests them. -/
theorem regs_of_pioOutb (fixed : Fixed cont)
    (called : pioOutb host cont address val = .ok next) :
    next.master.reg = regsAfter cont (.outb address val) := by
  simp only [pioOutb] at called
  simp only [regsAfter, eventOf]
  rcases Outcome.of_ite_eq_ok called with
    ⟨floppy, done⟩ | ⟨notFloppy, called⟩
  · cases done
    rw [if_pos (Or.inl floppy)]
    exact (takenRegs_floppy floppy).symm
  rcases Outcome.of_ite_eq_ok called with ⟨head, done⟩ | ⟨notHead, called⟩
  · cases done
    rw [if_pos (Or.inr (Or.inl head))]
    subst head
    exact takenRegs_deviceHead
  rcases Outcome.of_ite_eq_ok called with
    ⟨absent, done⟩ | ⟨present, called⟩
  · cases done
    rw [if_pos (Or.inr (Or.inr absent))]
    exact (takenRegs_absent fixed notHead absent).symm
  have selected : cont.pCurrDev = .master :=
    fixed.selects_master (by simpa using present)
  rw [if_neg (by tauto)]
  rcases Outcome.of_ite_eq_ok called with
    ⟨command, done⟩ | ⟨notCommand, called⟩
  · rw [if_pos command]
    exact regs_of_command fixed selected done
  rw [if_neg notCommand]
  rcases Outcome.of_ite_eq_ok called with
    ⟨control, done⟩ | ⟨notControl, called⟩
  · have written := regs_of_control selected done
    subst control
    by_cases srst : val &&& bitDeviceControlSrst ≠ 0
    · rw [if_pos srst] at written
      rw [if_pos ⟨rfl, srst⟩]
      exact written
    · rw [if_neg srst] at written
      rw [if_neg (by tauto)]
      exact written
  rw [if_neg (by tauto)]
  rcases Outcome.of_ite_eq_ok called with ⟨same, done⟩ | ⟨-, called⟩
  · refine regs_of_port selected same (by decide) (fun target => ?_) done
    cases target <;> decide
  rcases Outcome.of_ite_eq_ok called with ⟨same, done⟩ | ⟨-, called⟩
  · refine regs_of_port selected same (by decide) (fun target => ?_) done
    cases target <;> decide
  rcases Outcome.of_ite_eq_ok called with ⟨same, done⟩ | ⟨-, called⟩
  · refine regs_of_port selected same (by decide) (fun target => ?_) done
    cases target <;> decide
  rcases Outcome.of_ite_eq_ok called with ⟨same, done⟩ | ⟨-, called⟩
  · refine regs_of_port selected same (by decide) (fun target => ?_) done
    cases target <;> decide
  rcases Outcome.of_ite_eq_ok called with ⟨same, done⟩ | ⟨-, called⟩
  · refine regs_of_port selected same (by decide) (fun target => ?_) done
    cases target <;> decide
  cases called

end Write

/-- Every access that returns leaves the registers that `regsAfter` says. -/
theorem regs_of_access {host : HostCalls} {cont next : AtaController}
    {guest : Access} {response : Response} (fixed : Fixed cont)
    (called : access cont (host, guest) = .ok (response, next)) :
    next.master.reg = regsAfter cont guest := by
  cases guest with
  | outb address val =>
      simp only [access, Outcome.bind_eq_ok_iff, Outcome.pure_eq_ok,
        Except.ok.injEq, Prod.mk.injEq] at called
      obtain ⟨_, called, -, rfl⟩ := called
      exact regs_of_pioOutb fixed called
  | inb address =>
      simp only [access, Outcome.bind_eq_ok_iff, Outcome.pure_eq_ok,
        Except.ok.injEq, Prod.mk.injEq, Prod.exists] at called
      obtain ⟨_, _, called, -, rfl⟩ := called
      rcases pioInb_next called with rfl | rfl
      · rfl
      · rfl
  | outw address val =>
      simp only [access, Outcome.bind_eq_ok_iff, Outcome.pure_eq_ok,
        Except.ok.injEq, Prod.mk.injEq] at called
      obtain ⟨_, called, -, rfl⟩ := called
      have selected := fixed.selected_of_pioOutw called
      obtain ⟨-, -, rfl⟩ := (pioOutw_eq_ok_iff selected).mp called
      simp only [regsAfter, writeWordRegs]
      split
      · rfl
      · rfl
  | inw address =>
      simp only [access, Outcome.bind_eq_ok_iff, Outcome.pure_eq_ok,
        Except.ok.injEq, Prod.mk.injEq, Prod.exists] at called
      obtain ⟨_, _, called, -, rfl⟩ := called
      have selected := fixed.selected_of_pioInw called
      obtain ⟨-, -, -, rfl⟩ := (pioInw_eq_ok_iff selected).mp called
      rfl

end Kvmulate.Ata
