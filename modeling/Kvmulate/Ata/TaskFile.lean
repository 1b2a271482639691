import Kvmulate.Ata.Programming
import Kvmulate.Ata.Registers

/-!
# Writes to the task file

A byte that the guest writes to a port of the task file should change the
register of that name and nothing else.
-/

namespace Kvmulate.Ata

open DeviceLib

/-- A register that the guest writes without a command or a reset. -/
inductive Target where
  | task (target : TaskReg)
  | deviceControl
deriving DecidableEq, Repr

namespace Target

def port : Target → Uint16
  | .task target => target.port
  | .deviceControl => portWDeviceControl

def reg : Target → Reg
  | .task target => target.reg
  | .deviceControl => .deviceControl

end Target

def AtaController.device (cont : AtaController) : CurrDev → AtaDev
  | .master => cont.master
  | .slave => cont.slave

/-- One register of one device took a byte, and the device is the current one
now. -/
structure ChangesOnly (cont next : AtaController) (device : CurrDev)
    (reg : Reg) (val : Uint8) : Prop where
  current : next.pCurrDev = device
  irq14 : next.irq14 = cont.irq14
  transfers :
    ∀ other, SameTransfers (cont.device other) (next.device other)
  regs : ∀ other tested,
    (next.device other).reg tested =
      if other = device ∧ tested = reg then val
      else (cont.device other).reg tested

/-- The write returns, and only the register of its name differs, in the
device that it is for. -/
def Isolated (host : HostCalls) (cont : AtaController) (target : Target)
    (val : Uint8) : Prop :=
  ∃ next,
    pioOutb host cont target.port val = .ok next ∧
      ChangesOnly cont next (addressed cont target.port val) target.reg val

section Write

variable {host : HostCalls} {cont : AtaController}

theorem changesOnly_setReg (cont : AtaController) (device : CurrDev)
    (reg : Reg) (val : Uint8) :
    ChangesOnly cont (({ cont with pCurrDev := device }).setReg reg val)
      device reg val := by
  refine ⟨setReg_pCurrDev reg val, ?_, fun other => ?_,
    fun other tested => ?_⟩
  · cases device <;> rfl
  · cases device <;> cases other <;> exact .of_reg _ _
  · cases device <;> cases other <;>
      simp [AtaController.setReg, AtaController.setCurrDev,
        AtaController.currDev, AtaController.device,
        Function.update_apply]

/-- A byte for a register of the task file proper. -/
theorem pioOutb_task (host : HostCalls) (fixed : Fixed cont)
    (selected : cont.pCurrDev = .master) (target : TaskReg)
    (val : Uint8) :
    pioOutb host cont target.port val =
      .ok (({ cont with
        pCurrDev := addressed cont target.port val }).setReg
          target.reg val) := by
  have present : cont.currDev.bIsPresent = true := by
    rw [currDev_of_master selected, fixed.masterPresent]
  cases target with
  | deviceHead => rfl
  | _ => simp +decide [pioOutb, addressed, TaskReg.reg, present]

/-- A byte for Device Control that asks for no reset. -/
theorem pioOutb_deviceControl (host : HostCalls) (fixed : Fixed cont)
    (selected : cont.pCurrDev = .master) {val : Uint8}
    (clear : val &&& bitDeviceControlSrst = 0) :
    pioOutb host cont portWDeviceControl val =
      .ok ((cont.setReg .deviceControl val).setReg .features val) := by
  have present : cont.currDev.bIsPresent = true := by
    rw [currDev_of_master selected, fixed.masterPresent]
  rw [pioOutb, if_neg (by decide), if_neg (by decide),
    if_neg (by simp [present]), if_neg (by decide), if_pos rfl,
    if_neg (not_not_intro clear)]
  rfl

/-- A byte for Device Control changes one register where the Features
register holds the byte already. -/
theorem changesOnly_deviceControl_iff
    (selected : cont.pCurrDev = .master) (val : Uint8) :
    ChangesOnly cont ((cont.setReg .deviceControl val).setReg .features val)
        .master .deviceControl val ↔
      cont.master.reg .features = val := by
  rw [setReg_of_master (by simpa using selected),
    setReg_of_master selected]
  constructor
  · intro changes
    have kept := changes.regs .master .features
    rw [if_neg (by decide)] at kept
    have stored :=
      Function.update_self Reg.features val
        (Function.update cont.master.reg .deviceControl val)
    exact kept.symm.trans stored
  · intro same
    have unchanged :
        Function.update
            (Function.update cont.master.reg .deviceControl val)
            .features val =
          Function.update cont.master.reg .deviceControl val := by
      rw [Function.update_eq_self_iff,
        Function.update_of_ne (by decide), same]
    have changes := changesOnly_setReg cont .master .deviceControl val
    rw [setReg_of_master rfl] at changes
    simp only [unchanged]
    refine ⟨selected, changes.irq14, changes.transfers, changes.regs⟩

end Write

/-- A write to the task file changes the register of its name only, in every
reachable state, except that a byte for Device Control ends in the Features
register, too. -/
theorem isolated_iff {image : List Uint8}
    {inputs : List (HostCalls × Access)} {responses : List Response}
    {cont : AtaController}
    (ran : run access (x86AtaInit image) inputs = .ok (responses, cont))
    (selected : cont.pCurrDev = .master) (host : HostCalls)
    (target : Target) (val : Uint8)
    (noReset : target = .deviceControl → val &&& bitDeviceControlSrst = 0) :
    Isolated host cont target val ↔
      target ≠ .deviceControl ∨ cont.master.reg .features = val := by
  have fixed := fixed_of_run ran
  cases target with
  | task target =>
      refine iff_of_true ?_ (Or.inl Target.noConfusion)
      exact ⟨_, pioOutb_task host fixed selected target val,
        changesOnly_setReg cont _ target.reg val⟩
  | deviceControl =>
      have written := pioOutb_deviceControl host fixed selected (noReset rfl)
      have device :
          addressed cont portWDeviceControl val = .master := by
        rw [addressed, if_neg (by decide)]
        exact selected
      have only :
          Isolated host cont .deviceControl val ↔
            ChangesOnly cont
              ((cont.setReg .deviceControl val).setReg .features val)
              .master .deviceControl val := by
        simp only [Isolated, Target.port, Target.reg, written, device,
          Except.ok.injEq, exists_eq_left']
      rw [only, changesOnly_deviceControl_iff selected]
      simp

/-- The byte that switches the interrupts off, in the initial state. -/
theorem isolated_iff_initial :
    Isolated HostCalls.full (x86AtaInit []) .deviceControl 0x02 ↔
      Target.deviceControl ≠ .deviceControl ∨
        (x86AtaInit []).master.reg .features = 0x02 :=
  @isolated_iff [] [] [] _ rfl rfl HostCalls.full .deviceControl 0x02
    (fun _ => by decide)

/-- That byte is stored in Features, too. -/
theorem not_always_isolated :
    ¬ ∀ (image : List Uint8) (inputs : List (HostCalls × Access))
        (responses : List Response) (cont : AtaController),
      run access (x86AtaInit image) inputs = .ok (responses, cont) →
        cont.pCurrDev = .master →
          ∀ (host : HostCalls) (target : Target) (val : Uint8),
            (target = .deviceControl → val &&& bitDeviceControlSrst = 0) →
              Isolated host cont target val := by
  intro always
  have isolated :=
    always [] [] [] (x86AtaInit []) rfl rfl HostCalls.full .deviceControl
      0x02 (fun _ => by decide)
  obtain ⟨next, written, changes⟩ := isolated
  have reached :
      pioOutb HostCalls.full (x86AtaInit []) Target.deviceControl.port
          0x02 =
        .ok (((x86AtaInit []).setReg .deviceControl 0x02).setReg
          .features 0x02) := rfl
  rw [reached] at written
  cases written
  have kept := changes.regs .master .features
  revert kept
  decide

end Kvmulate.Ata
