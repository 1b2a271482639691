import Kvmulate.Ata.History

/-!
# Programming a command

The task file of the present device is written register by register, and the
command byte starts the command.
-/

namespace Kvmulate.Ata

open DeviceLib

/-! ## The task file -/

/-- The registers that a command takes its arguments from. -/
inductive TaskReg where
  | features
  | sectorCount
  | sectorNumber
  | cylinderLow
  | cylinderHigh
  | deviceHead
deriving DecidableEq, Repr

def TaskReg.port : TaskReg → Uint16
  | .features => portWFeatures
  | .sectorCount => portRwSectorCount
  | .sectorNumber => portRwSectorNumber
  | .cylinderLow => portRwCylinderLow
  | .cylinderHigh => portRwCylinderHigh
  | .deviceHead => portRwDeviceHead

def TaskReg.reg : TaskReg → Reg
  | .features => .features
  | .sectorCount => .sectorCount
  | .sectorNumber => .sectorNumber
  | .cylinderLow => .cylinderLow
  | .cylinderHigh => .cylinderHigh
  | .deviceHead => .deviceHead

structure TaskWrite where
  target : TaskReg
  val : Uint8
deriving DecidableEq, Repr

namespace TaskWrite

def input (write : TaskWrite) : HostCalls × Access :=
  (HostCalls.full, .outb write.target.port write.val)

def apply (reg : Regs) (write : TaskWrite) : Regs :=
  Function.update reg write.target.reg write.val

/-- The write does not select the slave. -/
def KeepsMaster (write : TaskWrite) : Prop :=
  write.target = .deviceHead → selectedBy write.val = .master

instance (write : TaskWrite) : Decidable write.KeepsMaster :=
  inferInstanceAs (Decidable (_ → _))

end TaskWrite

/-- The controller with other registers of the master. -/
def withRegs (cont : AtaController) (reg : Regs) : AtaController :=
  { cont with master := { cont.master with reg := reg } }

theorem access_taskWrite {cont : AtaController} (fixed : Fixed cont)
    (selected : cont.pCurrDev = .master) {write : TaskWrite}
    (keeps : write.KeepsMaster) :
    access cont write.input =
      .ok (.none, withRegs cont (write.apply cont.master.reg)) := by
  obtain ⟨target, val⟩ := write
  have present : cont.currDev.bIsPresent = true := by
    rw [currDev_of_master selected, fixed.masterPresent]
  have written :
      pioOutb HostCalls.full cont target.port val =
        .ok (cont.setReg target.reg val) := by
    cases target with
    | deviceHead =>
        have kept : selectedBy val = .master := keeps rfl
        have same : { cont with pCurrDev := selectedBy val } = cont := by
          rw [kept, ← selected]
        change pioOutb HostCalls.full cont portRwDeviceHead val = _
        unfold pioOutb
        rw [if_neg (by decide), if_pos rfl, same]
        rfl
    | _ =>
        simp +decide [pioOutb, TaskReg.reg, present]
  rw [setReg_of_master selected] at written
  simp only [access, TaskWrite.input, written]
  rfl

theorem eventOf_taskWrite (cont : AtaController) (write : TaskWrite) :
    eventOf cont write.input.2 = .register := by
  have notCommand : write.target.port ≠ portWCommand := by
    cases write.target <;> decide
  have notControl : write.target.port ≠ portWDeviceControl := by
    cases write.target <;> decide
  change eventOf cont (.outb write.target.port write.val) = .register
  simp only [eventOf, if_neg notCommand, notControl, false_and,
    if_false, ite_self]

theorem Tracks.withRegs {cont : AtaController} {history : History}
    (tracks : Tracks cont history) (reg : Regs) :
    Tracks (withRegs cont reg) history where
  fixed := tracks.fixed.with_master rfl rfl
  read := tracks.read.frame rfl rfl rfl rfl rfl
  write := tracks.write.frame rfl rfl rfl rfl rfl rfl rfl

theorem Fixed.withRegs {cont : AtaController} (fixed : Fixed cont)
    (reg : Regs) : Fixed (withRegs cont reg) :=
  fixed.with_master rfl rfl

/-- Writing the task file changes nothing but its registers. -/
theorem run_setup {cont : AtaController} (history : History)
    (fixed : Fixed cont) (selected : cont.pCurrDev = .master)
    {setup : List TaskWrite} (keeps : ∀ write ∈ setup, write.KeepsMaster) :
    run accessObserved (cont, history) (setup.map TaskWrite.input) =
      .ok (setup.map fun _ => .none,
        (withRegs cont (setup.foldl TaskWrite.apply cont.master.reg),
          history)) := by
  induction setup generalizing cont with
  | nil => rfl
  | cons write rest inductionHypothesis =>
      have answered := access_taskWrite fixed selected
        (keeps write List.mem_cons_self)
      have silent :
          history = History.observe cont write.input .none history := by
        rw [History.observe, eventOf_taskWrite]
        rfl
      have ran :=
        inductionHypothesis
          (fixed.withRegs (write.apply cont.master.reg)) selected
          (fun later mem => keeps later (List.mem_cons_of_mem _ mem))
      exact run_cons (observed_eq_ok_iff.mpr ⟨answered, silent⟩) ran

/-- Writes that program a count and an address in LBA mode on the master,
whatever the registers held before. -/
structure Programmed where
  setup : List TaskWrite
  lba : Uint32
  count : Uint8
  keeps : ∀ write ∈ setup, write.KeepsMaster
  lbaMode : ∀ reg, isLba (setup.foldl TaskWrite.apply reg) = true
  address : ∀ reg, lbaAddress (setup.foldl TaskWrite.apply reg) = lba
  sectorCount :
    ∀ reg, setup.foldl TaskWrite.apply reg .sectorCount = count

/-- An address is put together again from the parts in the task file. -/
theorem lba_of_parts (lba : BitVec 28) :
    (((lba.extractLsb' 24 4).setWidth 8).setWidth 32 <<< 24) |||
        ((lba.extractLsb' 16 8).setWidth 32 <<< 16) |||
        ((lba.extractLsb' 8 8).setWidth 32 <<< 8) |||
        (lba.extractLsb' 0 8).setWidth 32 =
      (lba.setWidth 32 : Uint32) := by
  ext bit bound
  simp only [BitVec.getElem_or, BitVec.getElem_shiftLeft,
    BitVec.getElem_setWidth, BitVec.getLsbD_setWidth,
    BitVec.getLsbD_extractLsb']
  rcases Nat.lt_or_ge bit 8 with first | above
  · have belowSecond : bit < 16 := by omega
    have belowThird : bit < 24 := by omega
    simp [first, belowSecond, belowThird]
  have notFirst : ¬ bit < 8 := by omega
  rcases Nat.lt_or_ge bit 16 with second | above
  · have shifted : 8 + (bit - 8) = bit := by omega
    have belowThird : bit < 24 := by omega
    have inside : bit - 8 < 8 := by omega
    simp [shifted, second, belowThird, notFirst, inside]
  have notSecond : ¬ bit < 16 := by omega
  have pastSecond : ¬ bit - 8 < 8 := by omega
  rcases Nat.lt_or_ge bit 24 with third | above
  · have shifted : 16 + (bit - 16) = bit := by omega
    have inside : bit - 16 < 8 := by omega
    simp [shifted, third, notSecond, notFirst, pastSecond, inside]
  · have shifted : 24 + (bit - 24) = bit := by omega
    have notThird : ¬ bit < 24 := by omega
    have pastThird : ¬ bit - 16 < 8 := by omega
    have inside : bit - 24 < 8 := by omega
    simp [shifted, notThird, notSecond, notFirst, pastSecond, pastThird,
      inside]
    intro set
    have small := BitVec.lt_of_getLsbD set
    omega

/-- Device/Head with the LBA bit, for the master. -/
def lbaDeviceHead (high : BitVec 4) : Uint8 := 0xE#4 ++ high

theorem lbaDeviceHead_bits :
    ∀ high : BitVec 4,
      (lbaDeviceHead high >>> 6) &&& 1 = 1 ∧
        lbaDeviceHead high &&& 0xF = high.setWidth 8 ∧
        selectedBy (lbaDeviceHead high) = .master := by
  decide

/-- Every count and every address of 28 bits can be programmed. -/
def program (lba : BitVec 28) (count : Uint8) : Programmed where
  setup :=
    [⟨.deviceHead, lbaDeviceHead (lba.extractLsb' 24 4)⟩,
      ⟨.sectorCount, count⟩,
      ⟨.sectorNumber, lba.extractLsb' 0 8⟩,
      ⟨.cylinderLow, lba.extractLsb' 8 8⟩,
      ⟨.cylinderHigh, lba.extractLsb' 16 8⟩]
  lba := lba.setWidth 32
  count := count
  keeps := by
    intro write mem
    rcases List.mem_cons.mp mem with rfl | others
    · exact fun _ => (lbaDeviceHead_bits _).2.2
    · intro head
      simp only [List.mem_cons, List.not_mem_nil, or_false] at others
      rcases others with rfl | rfl | rfl | rfl <;> cases head
  lbaMode := by
    intro reg
    have bits := lbaDeviceHead_bits (lba.extractLsb' 24 4)
    simp only [isLba, List.foldl_cons, List.foldl_nil,
      TaskWrite.apply, TaskReg.reg, ne_eq, reduceCtorEq,
      not_false_eq_true, Function.update_of_ne, Function.update_self,
      bits.1, decide_true]
  address := by
    intro reg
    have bits := lbaDeviceHead_bits (lba.extractLsb' 24 4)
    simp only [lbaAddress, List.foldl_cons, List.foldl_nil,
      TaskWrite.apply, TaskReg.reg, ne_eq, reduceCtorEq,
      not_false_eq_true, Function.update_of_ne, Function.update_self,
      bits.2.1]
    exact lba_of_parts lba
  sectorCount := by
    intro reg
    simp [TaskWrite.apply, TaskReg.reg]

/-! ## Commands -/

/-- A command byte reaches `do_command` on the present device. -/
theorem access_command (host : HostCalls) {cont : AtaController}
    (fixed : Fixed cont) (selected : cont.pCurrDev = .master)
    (cmd : Uint8) :
    access cont (host, .outb portWCommand cmd) =
      (doCommand host (commanded cont cmd) cmd).bind fun next =>
        .ok (.none, next) := by
  have present : cont.currDev.bIsPresent ≠ false := by
    rw [currDev_of_master selected, fixed.masterPresent]
    decide
  change (pioOutb host cont portWCommand cmd).bind _ = _
  unfold pioOutb
  rw [if_neg (by decide), if_neg (by decide), if_neg present,
    if_pos rfl, setReg_command_of_master selected]
  rfl

theorem eventOf_command {cont : AtaController} (fixed : Fixed cont)
    (selected : cont.pCurrDev = .master) (cmd : Uint8) :
    eventOf cont (.outb portWCommand cmd) = .command cmd := by
  have present : cont.currDev.bIsPresent ≠ false := by
    rw [currDev_of_master selected, fixed.masterPresent]
    decide
  have other :
      ¬ (portWCommand = portFloppy0 ∨ portWCommand = portRwDeviceHead ∨
        cont.currDev.bIsPresent = false) := by
    simp +decide [present]
  simp only [eventOf, if_neg other, if_true]

theorem access_readSectors (host : HostCalls) {cont : AtaController}
    (fixed : Fixed cont) (selected : cont.pCurrDev = .master) :
    access cont (host, .outb portWCommand cmdReadSectorsCode) =
      .ok (.none,
        { cont with
          master := readDev host (withCommand cont.master cmdReadSectorsCode)
          irq14 := true }) := by
  have still :
      (commanded cont cmdReadSectorsCode).pCurrDev = .master := selected
  rw [access_command host fixed selected, doCommand,
    if_neg (by decide), if_neg (by decide), if_pos rfl]
  exact congrArg (fun next => Except.ok (Response.none, next))
    (cmdReadSectors_of_master host still)

theorem access_writeSectors (host : HostCalls) {cont : AtaController}
    (fixed : Fixed cont) (selected : cont.pCurrDev = .master)
    (lba : isLba cont.master.reg = true)
    (nonzero : cont.master.reg .sectorCount ≠ 0) :
    access cont (host, .outb portWCommand cmdWriteSectorsCode) =
      .ok (.none,
        { cont with
          master :=
            writeDev (withCommand cont.master cmdWriteSectorsCode)
          irq14 := false }) := by
  have still :
      (commanded cont cmdWriteSectorsCode).pCurrDev = .master := selected
  have served := (cmdWriteSectors_eq_ok_iff still).mpr ⟨lba, nonzero, rfl⟩
  rw [access_command host fixed selected, doCommand,
    if_neg (by decide), if_pos rfl]
  exact congrArg (fun outcome => Except.bind outcome _) served

theorem access_recalibrate (host : HostCalls) {cont : AtaController}
    (fixed : Fixed cont) (selected : cont.pCurrDev = .master) :
    access cont (host, .outb portWCommand cmdRecalibrateCode) =
      .ok (.none,
        { cont with
          master :=
            acknowledgedDev (withCommand cont.master cmdRecalibrateCode)
          irq14 := true }) := by
  have still :
      (commanded cont cmdRecalibrateCode).pCurrDev = .master := selected
  rw [access_command host fixed selected, doCommand, if_pos rfl]
  exact congrArg (fun next => Except.ok (Response.none, next))
    (acknowledgeCommand_of_master still)

end Kvmulate.Ata
