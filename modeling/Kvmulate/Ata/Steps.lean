import Kvmulate.Ata.Controller

/-!
# What one guest access does

`eventOf` names what an access means to the present device, and
`served_of_access` says once what the controller does for each event.  All
invariants over runs are derived from that one statement.
-/

namespace Kvmulate.Ata

open DeviceLib

/-- What the present device takes an access for. -/
inductive Event where
  | register
  | command (cmd : Uint8)
  | reset
  | dataIn
  | dataOut (val : Uint16)
deriving DecidableEq, Repr

/-- A command or a reset reaches a device only while a present one is
selected. -/
def eventOf (cont : AtaController) : Access → Event
  | .outb address val =>
      if address = portFloppy0 ∨ address = portRwDeviceHead ∨
          cont.currDev.bIsPresent = false then .register
      else if address = portWCommand then .command val
      else if address = portWDeviceControl ∧
          val &&& bitDeviceControlSrst ≠ 0 then .reset
      else .register
  | .inb _ => .register
  | .outw _ val => .dataOut val
  | .inw _ => .dataIn

/-- Nothing but registers differs. -/
structure SameTransfers (dev next : AtaDev) : Prop where
  present : next.bIsPresent = dev.bIsPresent
  type : next.type = dev.type
  file : next.backingfile = dev.backingfile
  identify : next.identify = dev.identify
  readBuffer : next.readBuffer = dev.readBuffer
  readOffset : next.readBufferOffset = dev.readBufferOffset
  readSize : next.readBufferSize = dev.readBufferSize
  writeBuffer : next.writeBuffer = dev.writeBuffer
  writeOffset : next.writeBufferOffset = dev.writeBufferOffset
  writeSize : next.writeBufferSize = dev.writeBufferSize
  writeLba : next.writeBufferLBA = dev.writeBufferLBA

theorem SameTransfers.refl (dev : AtaDev) : SameTransfers dev dev :=
  ⟨rfl, rfl, rfl, rfl, rfl, rfl, rfl, rfl, rfl, rfl, rfl⟩

theorem SameTransfers.of_reg (dev : AtaDev) (reg : Regs) :
    SameTransfers dev { dev with reg := reg } :=
  ⟨rfl, rfl, rfl, rfl, rfl, rfl, rfl, rfl, rfl, rfl, rfl⟩

/-- What holds of the two devices in every reachable state: the master is a
present disk, and the slave is absent and never had a transfer. -/
structure Fixed (cont : AtaController) : Prop where
  masterPresent : cont.master.bIsPresent = true
  masterDisk : cont.master.type = .disk
  slaveAbsent : cont.slave.bIsPresent = false
  slaveRead : cont.slave.readBuffer = none
  slaveWrite : cont.slave.writeBuffer = none

/-! ## The selected device -/

section CurrDev

variable {cont : AtaController}

theorem currDev_of_master (selected : cont.pCurrDev = .master) :
    cont.currDev = cont.master := by
  simp [AtaController.currDev, selected]

theorem currDev_of_slave (selected : cont.pCurrDev = .slave) :
    cont.currDev = cont.slave := by
  simp [AtaController.currDev, selected]

theorem setCurrDev_of_master (selected : cont.pCurrDev = .master)
    (dev : AtaDev) :
    cont.setCurrDev dev = { cont with master := dev } := by
  simp [AtaController.setCurrDev, selected]

/-- The present device is the master. -/
theorem Fixed.selects_master (fixed : Fixed cont)
    (present : cont.currDev.bIsPresent = true) :
    cont.pCurrDev = .master := by
  cases selected : cont.pCurrDev with
  | master => rfl
  | slave =>
      rw [currDev_of_slave selected, fixed.slaveAbsent] at present
      cases present

theorem setReg_of_master (selected : cont.pCurrDev = .master)
    (reg : Reg) (val : Uint8) :
    cont.setReg reg val =
      { cont with
        master :=
          { cont.master with
            reg := Function.update cont.master.reg reg val } } := by
  unfold AtaController.setReg
  rw [currDev_of_master selected, setCurrDev_of_master selected]

@[simp]
theorem setReg_pCurrDev (reg : Reg) (val : Uint8) :
    (cont.setReg reg val).pCurrDev = cont.pCurrDev := by
  unfold AtaController.setReg AtaController.setCurrDev
  cases cont.pCurrDev <;> rfl

end CurrDev

/-! ## One statement for each function -/

/-- The registers after a soft reset and the write that caused it. -/
def resetRegs (val : Uint8) : Regs :=
  Function.update
    (Function.update
      (Regs.setStatus
        (Function.update
          (Function.update (fun _ => 0) .sectorCount 0x01)
          .sectorNumber 0x01)
        bitStatusDrdy)
      .deviceControl val)
    .features val

theorem doSoftreset_eq_ok_iff {cont next : AtaController}
    (selected : cont.pCurrDev = .master) :
    doSoftreset cont = .ok next ↔
      ∃ buffer, cont.master.readBuffer = some buffer ∧
        512 ≤ buffer.length ∧
        next =
          { cont with
            master :=
              { cont.master with
                readBuffer := some (clearedBlock buffer)
                reg :=
                  Regs.setStatus
                    (Function.update
                      (Function.update (fun _ => 0) .sectorCount 0x01)
                      .sectorNumber 0x01)
                    bitStatusDrdy }
            irq14 := false } := by
  obtain ⟨master, slave, pCurrDev, irq14⟩ := cont
  simp only at selected
  subst selected
  unfold doSoftreset
  simp only [AtaController.currDev, AtaController.setCurrDev,
    AtaController.irqSet]
  cases master.readBuffer with
  | none =>
      simp
  | some buffer =>
      by_cases long : 512 ≤ buffer.length
      · simp [long, eq_comm (b := next)]
      · simp [long]

/-- The registers when a data command has announced its first word. -/
def offeredRegs (reg : Regs) : Regs :=
  Regs.setStatus (Function.update reg .error 0)
    (bitStatusDrdy ||| bitStatusDrq)

@[simp]
theorem setStatus_status (reg : Regs) (val : Uint8) :
    Regs.setStatus reg val .status = val := by
  simp [Regs.setStatus]

theorem setStatus_setStatus (reg : Regs) (first second : Uint8) :
    Regs.setStatus (Regs.setStatus reg first) second =
      Regs.setStatus reg second := by
  funext tested
  simp only [Regs.setStatus, Function.update_apply]
  split
  · rfl
  · split <;> rfl

/-- The device after WRITE SECTORS. -/
def writeDev (dev : AtaDev) : AtaDev :=
  { dev with
    writeBufferOffset := 0
    writeBufferSize := ((dev.reg .sectorCount).toNat * 512 : Nat)
    writeBuffer :=
      some (List.replicate ((dev.reg .sectorCount).toNat * 512) 0)
    writeBufferLBA := (lbaAddress dev.reg).setWidth 64
    reg := offeredRegs dev.reg }

theorem cmdWriteSectors_eq_ok_iff {cont next : AtaController}
    (selected : cont.pCurrDev = .master) :
    cmdWriteSectors cont = .ok next ↔
      isLba cont.master.reg = true ∧
        cont.master.reg .sectorCount ≠ 0 ∧
        next = { cont with master := writeDev cont.master } := by
  unfold cmdWriteSectors
  rw [currDev_of_master selected]
  simp only [setCurrDev_of_master selected, setStatus_setStatus,
    Outcome.bind_eq_ok_iff, Outcome.assert_eq_ok_iff,
    Outcome.pure_eq_ok, Except.ok.injEq, exists_const, offeredRegs,
    writeDev, eq_comm (b := next), Nat.cast_mul, Nat.cast_ofNat]

/-- The device after READ SECTORS. -/
def readDev (host : HostCalls) (dev : AtaDev) : AtaDev :=
  let size := readSectorsCount dev.reg * 512
  let sought :=
    dev.backingfile.seek host
      (sectorOffset ((readSectorsLba dev.reg).setWidth 64))
  { dev with
    backingfile := (sought.read host size).2
    readBufferSize := size
    readBuffer :=
      some ((sought.read host size).1 ++
        List.replicate (size - (sought.read host size).1.length) 0)
    readBufferOffset := 0
    reg := offeredRegs dev.reg }

/-- The file offset that READ SECTORS seeks to. -/
def readSectorsOffset (reg : Regs) : Nat :=
  sectorOffset ((readSectorsLba reg).setWidth 64)

/-- READ SECTORS fills the buffer with the file from its offset. -/
theorem readDev_window (dev : AtaDev) :
    (readDev HostCalls.full dev).readBuffer.getD [] =
      window dev.backingfile.data (readSectorsOffset dev.reg)
        (readSectorsCount dev.reg * 512) := by
  simp only [readDev, Option.getD_some, HostFile.seek_full]
  exact HostFile.read_full_padded _ _

theorem cmdReadSectors_of_master (host : HostCalls) {cont : AtaController}
    (selected : cont.pCurrDev = .master) :
    cmdReadSectors host cont =
      { cont with master := readDev host cont.master, irq14 := true } := by
  unfold cmdReadSectors
  rw [currDev_of_master selected]
  simp only [setCurrDev_of_master selected]
  rfl

/-- The device after IDENTIFY DEVICE. -/
def identifyDev (dev : AtaDev) : AtaDev :=
  { dev with
    readBuffer := some (dev.identify.toList.flatMap wordBytes)
    readBufferOffset := 0
    readBufferSize := 512
    reg := offeredRegs dev.reg }

theorem cmdIdentifyDevice_of_disk {cont : AtaController}
    (selected : cont.pCurrDev = .master)
    (disk : cont.master.type = .disk) :
    cmdIdentifyDevice cont =
      .ok { cont with master := identifyDev cont.master } := by
  have notDvd : cont.master.type ≠ .dvdRom := by
    rw [disk]
    decide
  unfold cmdIdentifyDevice
  rw [currDev_of_master selected]
  simp only [if_neg notDvd, setCurrDev_of_master selected]
  rfl

/-- The device after a command that transfers nothing. -/
def acknowledgedDev (dev : AtaDev) : AtaDev :=
  { dev with
    reg :=
      Regs.setStatus (Function.update dev.reg .error 0) bitStatusDrdy }

theorem acknowledgeCommand_of_master {cont : AtaController}
    (selected : cont.pCurrDev = .master) :
    acknowledgeCommand cont =
      { cont with
        master := acknowledgedDev cont.master
        irq14 := true } := by
  unfold acknowledgeCommand
  rw [currDev_of_master selected]
  simp only [setCurrDev_of_master selected]
  rfl

/-- The device after IDENTIFY PACKET DEVICE, which a disk refuses. -/
def refusedDev (dev : AtaDev) : AtaDev :=
  { dev with
    reg :=
      Function.update (Function.update dev.reg .error bitErrorAbrt)
        .status (bitStatusErr ||| bitStatusDrdy) }

theorem cmdIdentifyPacketDevice_of_disk {cont : AtaController}
    (selected : cont.pCurrDev = .master)
    (disk : cont.master.type = .disk) :
    cmdIdentifyPacketDevice cont =
      .ok { cont with master := refusedDev cont.master } := by
  have notDvd : cont.master.type ≠ .dvdRom := by
    rw [disk]
    decide
  unfold cmdIdentifyPacketDevice
  rw [currDev_of_master selected, if_pos notDvd,
    setReg_of_master selected, setReg_of_master (by exact selected)]
  rfl

theorem not_drq_acknowledgedDev (dev : AtaDev) :
    ¬ (acknowledgedDev dev).drq := by
  have status : (acknowledgedDev dev).reg .status = bitStatusDrdy :=
    setStatus_status (Function.update dev.reg .error 0) bitStatusDrdy
  unfold AtaDev.drq
  rw [status]
  decide

theorem not_drq_refusedDev (dev : AtaDev) : ¬ (refusedDev dev).drq := by
  have status :
      (refusedDev dev).reg .status = bitStatusErr ||| bitStatusDrdy :=
    Function.update_self Reg.status _
      (Function.update dev.reg .error bitErrorAbrt)
  unfold AtaDev.drq
  rw [status]
  decide

/-- The registers after a word was read and the offset moved on. -/
def readWordRegs (dev : AtaDev) : Regs :=
  if dev.readBufferOffset + 2 ≥ dev.readBufferSize then
    Regs.setStatus dev.reg bitStatusDrdy
  else if (dev.readBufferOffset + 2) % 512 = 0 then offeredRegs dev.reg
  else dev.reg

theorem pioInw_eq_ok_iff {cont next : AtaController}
    {address val : Uint16} (selected : cont.pCurrDev = .master) :
    pioInw cont address = .ok (val, next) ↔
      address = 0 ∧
        insideBuffer cont.master.readBuffer
          cont.master.readBufferOffset ∧
        val =
          loadWord (cont.master.readBuffer.getD [])
            cont.master.readBufferOffset.toNat ∧
        next =
          { cont with
            master :=
              { cont.master with
                readBufferOffset := cont.master.readBufferOffset + 2
                reg := readWordRegs cont.master } } := by
  unfold pioInw
  rw [currDev_of_master selected]
  simp only [setCurrDev_of_master selected, Outcome.bind_eq_ok_iff,
    Outcome.assert_eq_ok_iff, Outcome.guard_eq_ok_iff,
    Outcome.pure_eq_ok, Except.ok.injEq, exists_const, Prod.mk.injEq,
    readWordRegs, offeredRegs, eq_comm (b := val),
    eq_comm (b := next)]

/-- The device after a word was stored into the write buffer. -/
def storedDev (dev : AtaDev) (val : Uint16) : AtaDev :=
  { dev with
    writeBuffer :=
      some (storeWord (dev.writeBuffer.getD [])
        dev.writeBufferOffset.toNat val)
    writeBufferOffset := dev.writeBufferOffset + 2 }

/-- The device after the buffer was written to the backing file. -/
def committedDev (host : HostCalls) (dev : AtaDev) (val : Uint16) : AtaDev :=
  { storedDev dev val with
    backingfile :=
      (dev.backingfile.seek host (sectorOffset dev.writeBufferLBA)).write
        host
        ((storeWord (dev.writeBuffer.getD [])
          dev.writeBufferOffset.toNat val).take
            dev.writeBufferSize.toNat)
    reg := Regs.setStatus dev.reg bitStatusDrdy }

theorem pioOutw_eq_ok_iff {host : HostCalls} {cont next : AtaController}
    {address val : Uint16} (selected : cont.pCurrDev = .master) :
    pioOutw host cont address val = .ok next ↔
      address = 0 ∧
        insideBuffer cont.master.writeBuffer
          cont.master.writeBufferOffset ∧
        next =
          if cont.master.writeBufferOffset + 2 =
              cont.master.writeBufferSize then
            { cont with
              master := committedDev host cont.master val
              irq14 := true }
          else { cont with master := storedDev cont.master val } := by
  unfold pioOutw
  rw [currDev_of_master selected]
  simp only [setCurrDev_of_master selected, Outcome.bind_eq_ok_iff,
    Outcome.assert_eq_ok_iff, Outcome.guard_eq_ok_iff,
    Outcome.pure_eq_ok, exists_const]
  split <;>
    simp [AtaController.irqSet, committedDev, storedDev,
      eq_comm (b := next)]

/-! ## The inversion of an access -/

/-- The device with the code of a command in its Command register. -/
def withCommand (dev : AtaDev) (cmd : Uint8) : AtaDev :=
  { dev with reg := Function.update dev.reg .command cmd }

/-- What the controller does for an event. -/
inductive Served (host : HostCalls) (cont : AtaController) :
    Event → Response → AtaController → Prop
  | register {response : Response} {next : AtaController} :
      SameTransfers cont.master next.master →
      next.master.reg .status = cont.master.reg .status →
      SameTransfers cont.slave next.slave →
      Served host cont .register response next
  | reset {val : Uint8} {buffer : List Uint8} :
      cont.pCurrDev = .master →
      cont.master.readBuffer = some buffer →
      512 ≤ buffer.length →
      Served host cont .reset .none
        { cont with
          master :=
            { cont.master with
              readBuffer := some (clearedBlock buffer)
              reg := resetRegs val }
          irq14 := false }
  | nonData {cmd : Uint8} {next : AtaController} :
      cont.pCurrDev = .master →
      cmd ≠ cmdReadSectorsCode →
      cmd ≠ cmdWriteSectorsCode →
      cmd ≠ cmdIdentifyDeviceCode →
      SameTransfers cont.master next.master →
      ¬ next.master.drq →
      next.slave = cont.slave →
      Served host cont (.command cmd) .none next
  | readSectors :
      cont.pCurrDev = .master →
      Served host cont (.command cmdReadSectorsCode) .none
        { cont with
          master := readDev host (withCommand cont.master cmdReadSectorsCode)
          irq14 := true }
  | identify :
      cont.pCurrDev = .master →
      Served host cont (.command cmdIdentifyDeviceCode) .none
        { cont with
          master :=
            identifyDev (withCommand cont.master cmdIdentifyDeviceCode)
          irq14 := false }
  | writeSectors :
      cont.pCurrDev = .master →
      isLba cont.master.reg = true →
      cont.master.reg .sectorCount ≠ 0 →
      Served host cont (.command cmdWriteSectorsCode) .none
        { cont with
          master :=
            writeDev (withCommand cont.master cmdWriteSectorsCode)
          irq14 := false }
  | dataIn :
      cont.pCurrDev = .master →
      insideBuffer cont.master.readBuffer cont.master.readBufferOffset →
      Served host cont .dataIn
        (.word (loadWord (cont.master.readBuffer.getD [])
          cont.master.readBufferOffset.toNat))
        { cont with
          master :=
            { cont.master with
              readBufferOffset := cont.master.readBufferOffset + 2
              reg := readWordRegs cont.master } }
  | dataOut {val : Uint16} :
      cont.pCurrDev = .master →
      insideBuffer cont.master.writeBuffer
        cont.master.writeBufferOffset →
      cont.master.writeBufferOffset + 2 ≠ cont.master.writeBufferSize →
      Served host cont (.dataOut val) .none
        { cont with master := storedDev cont.master val }
  | commit {val : Uint16} :
      cont.pCurrDev = .master →
      insideBuffer cont.master.writeBuffer
        cont.master.writeBufferOffset →
      cont.master.writeBufferOffset + 2 = cont.master.writeBufferSize →
      Served host cont (.dataOut val) .none
        { cont with
          master := committedDev host cont.master val
          irq14 := true }

theorem Fixed.not_inside_slave {cont : AtaController}
    (fixed : Fixed cont) (selected : cont.pCurrDev = .slave) :
    (∀ offset, ¬ insideBuffer cont.currDev.readBuffer offset) ∧
      ∀ offset, ¬ insideBuffer cont.currDev.writeBuffer offset := by
  rw [currDev_of_slave selected, fixed.slaveRead, fixed.slaveWrite]
  simp [insideBuffer]

theorem Fixed.selected_of_pioInw {cont next : AtaController}
    {address val : Uint16} (fixed : Fixed cont)
    (called : pioInw cont address = .ok (val, next)) :
    cont.pCurrDev = .master := by
  cases selected : cont.pCurrDev with
  | master => rfl
  | slave =>
      unfold pioInw at called
      simp only [Outcome.bind_eq_ok_iff, Outcome.guard_eq_ok_iff]
        at called
      obtain ⟨_, -, _, inside, -⟩ := called
      exact absurd inside ((fixed.not_inside_slave selected).1 _)

theorem Fixed.selected_of_pioOutw {host : HostCalls}
    {cont next : AtaController} {address val : Uint16}
    (fixed : Fixed cont)
    (called : pioOutw host cont address val = .ok next) :
    cont.pCurrDev = .master := by
  cases selected : cont.pCurrDev with
  | master => rfl
  | slave =>
      unfold pioOutw at called
      simp only [Outcome.bind_eq_ok_iff, Outcome.guard_eq_ok_iff]
        at called
      obtain ⟨_, -, _, inside, -⟩ := called
      exact absurd inside ((fixed.not_inside_slave selected).2 _)

/-- A register that is neither status copy is written. -/
theorem served_setReg {host : HostCalls} {cont : AtaController} (reg : Reg)
    (val : Uint8) (response : Response) (notStatus : reg ≠ .status) :
    Served host cont .register response (cont.setReg reg val) := by
  cases selected : cont.pCurrDev with
  | master =>
      rw [setReg_of_master selected]
      exact .register (.of_reg _ _)
        (Function.update_of_ne notStatus.symm _ _) (.refl _)
  | slave =>
      unfold AtaController.setReg AtaController.setCurrDev
      rw [selected, currDev_of_slave selected]
      exact .register (.refl _) rfl (.of_reg _ _)

/-- The controller when `do_command` is called. -/
def commanded (cont : AtaController) (cmd : Uint8) : AtaController :=
  { cont with master := withCommand cont.master cmd, irq14 := false }

theorem setReg_command_of_master {cont : AtaController}
    (selected : cont.pCurrDev = .master) (cmd : Uint8) :
    (cont.setReg .command cmd).irqSet false = commanded cont cmd := by
  rw [setReg_of_master selected]
  rfl

/-- What `do_command` does on the present disk, once for each command. -/
inductive Executed (host : HostCalls) (cont : AtaController) :
    Uint8 → AtaController → Prop
  | acknowledged {cmd : Uint8} :
      cmd = cmdRecalibrateCode ∨ cmd = cmdInitializeDevParamsCode →
      Executed host cont cmd
        { cont with master := acknowledgedDev cont.master, irq14 := true }
  | writeSectors :
      isLba cont.master.reg = true → cont.master.reg .sectorCount ≠ 0 →
      Executed host cont cmdWriteSectorsCode
        { cont with master := writeDev cont.master }
  | readSectors :
      Executed host cont cmdReadSectorsCode
        { cont with master := readDev host cont.master, irq14 := true }
  | identify :
      Executed host cont cmdIdentifyDeviceCode
        { cont with master := identifyDev cont.master }
  | refused :
      Executed host cont cmdIdentifyPacketDeviceCode
        { cont with master := refusedDev cont.master }

theorem executed_of_doCommand {host : HostCalls}
    {cont next : AtaController} {cmd : Uint8}
    (selected : cont.pCurrDev = .master)
    (disk : cont.master.type = .disk)
    (lowered : cont.irqSet false = cont)
    (called : doCommand host cont cmd = .ok next) :
    Executed host cont cmd next := by
  simp only [doCommand, lowered] at called
  rcases Outcome.of_ite_eq_ok called with ⟨same, done⟩ | ⟨-, called⟩
  · rw [cmdRecalibrate, acknowledgeCommand_of_master selected] at done
    cases done
    exact .acknowledged (Or.inl same)
  rcases Outcome.of_ite_eq_ok called with ⟨same, done⟩ | ⟨-, called⟩
  · obtain ⟨lba, count, rfl⟩ :=
      (cmdWriteSectors_eq_ok_iff selected).mp done
    subst same
    exact .writeSectors lba count
  rcases Outcome.of_ite_eq_ok called with ⟨same, done⟩ | ⟨-, called⟩
  · rw [cmdReadSectors_of_master host selected] at done
    cases done
    subst same
    exact .readSectors
  rcases Outcome.of_ite_eq_ok called with ⟨same, done⟩ | ⟨-, called⟩
  · rw [cmdIdentifyDevice_of_disk selected disk] at done
    cases done
    subst same
    exact .identify
  rcases Outcome.of_ite_eq_ok called with ⟨same, done⟩ | ⟨-, called⟩
  · rw [cmdIdentifyPacketDevice_of_disk selected disk] at done
    cases done
    subst same
    exact .refused
  rcases Outcome.of_ite_eq_ok called with ⟨same, done⟩ | ⟨-, called⟩
  · rw [cmdInitializeDeviceParameters,
      acknowledgeCommand_of_master selected] at done
    cases done
    exact .acknowledged (Or.inr same)
  · cases called

/-- A command byte written to the present disk. -/
theorem executed_of_command {host : HostCalls}
    {cont next : AtaController} {cmd : Uint8} (fixed : Fixed cont)
    (selected : cont.pCurrDev = .master)
    (called :
      doCommand host ((cont.setReg .command cmd).irqSet false) cmd =
        .ok next) :
    Executed host (commanded cont cmd) cmd next := by
  rw [setReg_command_of_master selected] at called
  exact executed_of_doCommand selected fixed.masterDisk rfl called

/-- `do_command` on the present disk. -/
theorem served_doCommand {host : HostCalls} {cont next : AtaController}
    {cmd : Uint8} (fixed : Fixed cont)
    (selected : cont.pCurrDev = .master)
    (called :
      doCommand host ((cont.setReg .command cmd).irqSet false) cmd =
        .ok next) :
    Served host cont (.command cmd) .none next := by
  cases executed_of_command fixed selected called with
  | acknowledged known =>
      rcases known with rfl | rfl
      all_goals
        exact .nonData selected (by decide) (by decide) (by decide)
          (.of_reg cont.master _) (not_drq_acknowledgedDev _) rfl
  | writeSectors lba count => exact .writeSectors selected lba count
  | readSectors => exact .readSectors selected
  | identify => exact .identify selected
  | refused =>
      exact .nonData selected (by decide) (by decide) (by decide)
        (.of_reg cont.master _) (not_drq_refusedDev _) rfl

/-- A soft reset, together with the two registers written behind it. -/
theorem served_reset {host : HostCalls} {cont reset : AtaController}
    {val : Uint8} (selected : cont.pCurrDev = .master)
    (called : doSoftreset cont = .ok reset) :
    Served host cont .reset .none
      ((reset.setReg .deviceControl val).setReg .features val) := by
  obtain ⟨buffer, allocated, long, rfl⟩ :=
    (doSoftreset_eq_ok_iff selected).mp called
  rw [setReg_of_master (by simpa using selected),
    setReg_of_master (by exact selected)]
  exact .reset selected allocated long

/-- Two registers other than Status are written. -/
theorem served_deviceControl {host : HostCalls} {cont : AtaController}
    (val : Uint8) :
    Served host cont .register .none
      ((cont.setReg .deviceControl val).setReg .features val) := by
  cases selected : cont.pCurrDev with
  | master =>
      rw [setReg_of_master (by simpa using selected),
        setReg_of_master selected]
      exact .register (.of_reg cont.master _) rfl (.refl _)
  | slave =>
      simp only [AtaController.setReg, AtaController.setCurrDev,
        AtaController.currDev, selected]
      exact .register (.refl _) rfl (.of_reg cont.slave _)

/-- The selection changes, and the Device/Head register of the device that is
selected now. -/
theorem served_deviceHead {host : HostCalls} {cont : AtaController}
    (val : Uint8) :
    Served host cont .register .none
      (({ cont with pCurrDev := selectedBy val }).setReg
        .deviceHead val) := by
  cases selected : selectedBy val with
  | master =>
      rw [setReg_of_master rfl]
      exact .register (.of_reg cont.master _) rfl (.refl _)
  | slave =>
      exact .register (.refl _) rfl (.of_reg cont.slave _)

/-- A byte read changes nothing but the interrupt line. -/
theorem pioInb_next {cont next : AtaController} {address : Uint16}
    {val : Uint8} (called : pioInb cont address = .ok (val, next)) :
    next = cont ∨ next = cont.irqSet false := by
  have kept : Outcome.Ensures
      (fun result => result.2 = cont ∨ result.2 = cont.irqSet false)
      (pioInb cont address) := by
    have same : ∀ val : Uint8, Outcome.Ensures
        (fun result => result.2 = cont ∨ result.2 = cont.irqSet false)
        (.ok (val, cont)) :=
      fun _ => Outcome.ensures_ok (Or.inl rfl)
    unfold pioInb
    apply Outcome.ensures_ite (same _)
    apply Outcome.ensures_ite (same _)
    apply Outcome.ensures_ite
    · cases cont.pCurrDev with
      | master => exact same _
      | slave => exact same _
    apply Outcome.ensures_ite (same _)
    apply Outcome.ensures_ite (same _)
    apply Outcome.ensures_ite (same _)
    apply Outcome.ensures_ite (same _)
    apply Outcome.ensures_ite
    · exact Outcome.ensures_ok (Or.inr rfl)
    apply Outcome.ensures_ite (same _)
    exact Outcome.ensures_error
  exact kept (val, next) called

/-- A byte write, by the register that it is for. -/
theorem served_of_pioOutb {host : HostCalls} {cont next : AtaController}
    {address : Uint16} {val : Uint8} (fixed : Fixed cont)
    (called : pioOutb host cont address val = .ok next) :
    Served host cont (eventOf cont (.outb address val)) .none next := by
  unfold pioOutb at called
  simp only [eventOf]
  by_cases floppy : address = portFloppy0
  · rw [if_pos floppy] at called
    cases called
    rw [if_pos (Or.inl floppy)]
    exact .register (.refl _) rfl (.refl _)
  rw [if_neg floppy] at called
  by_cases head : address = portRwDeviceHead
  · rw [if_pos head] at called
    cases called
    rw [if_pos (Or.inr (Or.inl head))]
    exact served_deviceHead val
  rw [if_neg head] at called
  by_cases absent : cont.currDev.bIsPresent = false
  · rw [if_pos absent] at called
    cases called
    rw [if_pos (Or.inr (Or.inr absent))]
    exact .register (.refl _) rfl (.refl _)
  rw [if_neg absent] at called
  have selected : cont.pCurrDev = .master :=
    fixed.selects_master (by simpa using absent)
  rw [if_neg (by tauto)]
  by_cases command : address = portWCommand
  · rw [if_pos command] at called ⊢
    exact served_doCommand fixed selected called
  rw [if_neg command] at called ⊢
  by_cases control : address = portWDeviceControl
  · rw [if_pos control] at called
    by_cases srst : val &&& bitDeviceControlSrst ≠ 0
    · rw [if_pos ⟨control, srst⟩]
      simp only [if_pos srst, Outcome.bind_eq_ok_iff] at called
      obtain ⟨reset, called, done⟩ := called
      cases done
      exact served_reset selected called
    · rw [if_neg (by tauto)]
      simp only [if_neg srst, Outcome.pure_eq_ok,
        Outcome.ok_bind] at called
      cases called
      exact served_deviceControl val
  rw [if_neg control] at called
  rw [if_neg (by tauto)]
  repeat' split at called
  all_goals cases called
  all_goals exact served_setReg _ val _ (by decide)

/-- Every access that returns is served as its event says. -/
theorem served_of_access {host : HostCalls} {cont next : AtaController}
    {guest : Access} {response : Response} (fixed : Fixed cont)
    (called : access cont (host, guest) = .ok (response, next)) :
    Served host cont (eventOf cont guest) response next := by
  cases guest with
  | outb address val =>
      simp only [access, Outcome.bind_eq_ok_iff, Outcome.pure_eq_ok,
        Except.ok.injEq, Prod.mk.injEq] at called
      obtain ⟨_, called, rfl, rfl⟩ := called
      exact served_of_pioOutb fixed called
  | inb address =>
      simp only [access, Outcome.bind_eq_ok_iff, Outcome.pure_eq_ok,
        Except.ok.injEq, Prod.mk.injEq, Prod.exists] at called
      obtain ⟨_, _, called, rfl, rfl⟩ := called
      rcases pioInb_next called with rfl | rfl
      · exact .register (.refl _) rfl (.refl _)
      · exact .register (.refl _) rfl (.refl _)
  | outw address val =>
      simp only [access, Outcome.bind_eq_ok_iff, Outcome.pure_eq_ok,
        Except.ok.injEq, Prod.mk.injEq] at called
      obtain ⟨_, called, rfl, rfl⟩ := called
      have selected := fixed.selected_of_pioOutw called
      obtain ⟨-, inside, rfl⟩ := (pioOutw_eq_ok_iff selected).mp called
      split
      · rename_i last
        exact .commit selected inside last
      · rename_i more
        exact .dataOut selected inside more
  | inw address =>
      simp only [access, Outcome.bind_eq_ok_iff, Outcome.pure_eq_ok,
        Except.ok.injEq, Prod.mk.injEq, Prod.exists] at called
      obtain ⟨_, _, called, rfl, rfl⟩ := called
      have selected := fixed.selected_of_pioInw called
      obtain ⟨-, inside, rfl, rfl⟩ :=
        (pioInw_eq_ok_iff selected).mp called
      exact .dataIn selected inside

end Kvmulate.Ata
