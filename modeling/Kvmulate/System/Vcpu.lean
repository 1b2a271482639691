import Kvmulate.Devices.Components
import Kvmulate.Lib.Expansion
import Kvmulate.System.RepeatedIo

/-!
# The loop around KVM_RUN

`sys_run_vcpu` of `system.c` serves the exits that KVM_RUN returns with, over
the machine of all devices.
-/

namespace Kvmulate.System

open DeviceLib Kvmulate.Io Kvmulate.Devices

/-! ## The structure of an exit -/

namespace KvmRun

/-- `exit_reason` lies 8 bytes into the structure. -/
def exitReason (pStat : KvmRun) : Uint32 := leValue 32 (pStat.bytes 8 4)

/-- The member `mmio` shares its place with `io`.  It consists of `phys_addr`,
`data`, `len` and `is_write`. -/
def physAddr (pStat : KvmRun) : Uint64 := leValue 64 (pStat.bytes pStat.io 8)

def mmioData (pStat : KvmRun) : List Uint8 := pStat.bytes (pStat.io + 8) 8

def len (pStat : KvmRun) : Uint32 :=
  leValue 32 (pStat.bytes (pStat.io + 16) 4)

def isWrite (pStat : KvmRun) : Uint8 := pStat.byte (pStat.io + 20)

end KvmRun

def kvmExitIo : Uint32 := 2
def kvmExitDebug : Uint32 := 4
def kvmExitMmio : Uint32 := 6

/-! ## The devices during an exit -/

/-- What the host answers to each element of an exit. -/
abbrev Hosts := Nat → Host

def Hosts.later (hosts : Hosts) : Hosts := fun index => hosts (index + 1)

/-- An access under the host of its element, behind which the others follow. -/
def attend {α : Type} (call : Host → Machine → Outcome (α × Machine))
    (attended : Hosts × Machine) : Outcome (α × Hosts × Machine) := do
  let (result, next) ← call (attended.1 0) attended.2
  pure (result, attended.1.later, next)

def attendOut (call : Host → Machine → Outcome Machine)
    (attended : Hosts × Machine) : Outcome (Hosts × Machine) := do
  let next ← call (attended.1 0) attended.2
  pure (attended.1.later, next)

/-- All devices behind one handler, which asks their table. -/
def allDevices : IoHandler (Hosts × Machine) where
  base := 0
  mask := 0
  inb := some fun port => attend fun host machine => do
    ioInb (← devicesRegisterAll host) port machine
  inw := some fun port => attend fun host machine => do
    ioInw (← devicesRegisterAll host) port machine
  inl := some fun port => attend fun host machine => do
    ioInl (← devicesRegisterAll host) port machine
  outb := some fun port val => attendOut fun host machine => do
    ioOutb (← devicesRegisterAll host) port val machine
  outw := some fun port val => attendOut fun host machine => do
    ioOutw (← devicesRegisterAll host) port val machine
  outl := some fun port val => attendOut fun host machine => do
    ioOutl (← devicesRegisterAll host) port val machine

/-- The table of the devices, the host of which changes with each access. -/
def attendedTable : IoTable (Hosts × Machine) :=
  ⟨[allDevices], Nat.succ_lt_succ (Nat.zero_lt_succ 126)⟩

/-! ## Exits -/

/-- The data that a read delivers is stored in the structure. -/
def handleMmio (pStat : KvmRun) (machine : Machine) :
    Outcome (Int × KvmRun × Machine) :=
  let devices := Vga.mmioDevices machine.video
  if pStat.isWrite ≠ 0 then do
    let (r, video) ←
      mmioWrite devices pStat.physAddr pStat.len pStat.mmioData machine.video
    Outcome.assert (r = 0)
    pure (0, pStat, { machine with video := video })
  else do
    let (r, pData, video) ←
      mmioRead devices pStat.physAddr pStat.len machine.video
    Outcome.assert (r = 0)
    pure (0, pStat.patch (pStat.io + 8) pData, { machine with video := video })

/-- The body of the loop behind a KVM_RUN that succeeded. -/
def handleExit : Call Machine (Hosts × KvmRun) KvmRun
  | machine, (hosts, pStat) =>
      if pStat.exitReason = kvmExitIo then do
        let (r, after, attended) ←
          handleIo attendedTable pStat (hosts, machine)
        Outcome.assert (r = 0)
        pure (after, attended.2)
      else if pStat.exitReason = kvmExitDebug then .error .abort
      else if pStat.exitReason = kvmExitMmio then do
        let (r, after, next) ← handleMmio pStat machine
        Outcome.assert (r = 0)
        pure (after, next)
      else .error .abort

/-- KVM_RUN fails, or returns with an exit in the shared structure. -/
inductive KvmReturn where
  | failed
  | exit (hosts : Hosts) (pStat : KvmRun)

/-- `while(!bDone)` over what KVM_RUN returns, one call after the other.  The
result is `none` while the loop waits for another return; the structures are
those that the process leaves behind each exit. -/
def sysRunVcpu (machine : Machine) :
    List KvmReturn → Outcome (Option Int × List KvmRun × Machine)
  | [] => pure (none, [], machine)
  | .failed :: _ => pure (some 0, [], machine)
  | .exit hosts pStat :: rest => do
      let (after, next) ← handleExit machine (hosts, pStat)
      let (r, left, final) ← sysRunVcpu next rest
      pure (r, after :: left, final)

/-! ## What an exit stands for -/

/-- The exits before KVM_RUN fails. -/
def servedExits : List KvmReturn → List (Hosts × KvmRun)
  | [] => []
  | .failed :: _ => []
  | .exit hosts pStat :: rest => (hosts, pStat) :: servedExits rest

def loopResult : List KvmReturn → Option Int
  | [] => none
  | .failed :: _ => some 0
  | .exit _ _ :: rest => loopResult rest

/-- The steps of the guest behind an exit. -/
def exitSteps : Hosts × KvmRun → List DeviceStep
  | (hosts, pStat) =>
      if pStat.exitReason = kvmExitIo then
        pStat.accesses.mapIdx fun index => .port (hosts index)
      else if pStat.exitReason = kvmExitMmio then
        if pStat.isWrite ≠ 0 then
          [.write pStat.physAddr pStat.len pStat.mmioData]
        else [.read pStat.physAddr pStat.len]
      else []

/-- What the kernel promises of an exit for port I/O. -/
def FromKernel (exit : Hosts × KvmRun) : Prop :=
  exit.2.exitReason = kvmExitIo → DataArea exit.2 exit.2.count.toNat

/-- The structure that the process leaves holds what the steps delivered; an
address of MMIO belonged to a device. -/
def ExitAnswered (exit : Hosts × KvmRun)
    (responses : List Vga.VideoResponse) (after : KvmRun) : Prop :=
  if exit.2.exitReason = kvmExitIo then
    ∃ delivered : List IoData,
      delivered.length = exit.2.accesses.length ∧
        responses = delivered.map .data ∧
          after =
            exit.2.after exit.2.count.toNat (delivered.flatMap dataBytes)
  else
    exit.2.exitReason = kvmExitMmio ∧
      ∃ pData, responses = [.mmio 0 pData] ∧
        after =
          if exit.2.isWrite ≠ 0 then exit.2
          else exit.2.patch (exit.2.io + 8) pData

section Exit

variable {hosts : Hosts} {pStat after : KvmRun} {machine next : Machine}

theorem exitAnswered_io_iff {responses : List Vga.VideoResponse}
    (io : pStat.exitReason = kvmExitIo) :
    ExitAnswered (hosts, pStat) responses after ↔
      ∃ delivered : List IoData,
        delivered.length = pStat.accesses.length ∧
          responses = delivered.map .data ∧
            after =
              pStat.after pStat.count.toNat
                (delivered.flatMap dataBytes) :=
  iff_of_eq (if_pos io)

theorem exitAnswered_iff {responses : List Vga.VideoResponse}
    (io : pStat.exitReason ≠ kvmExitIo) :
    ExitAnswered (hosts, pStat) responses after ↔
      pStat.exitReason = kvmExitMmio ∧
        ∃ pData, responses = [.mmio 0 pData] ∧
          after =
            if pStat.isWrite ≠ 0 then pStat
            else pStat.patch (pStat.io + 8) pData :=
  iff_of_eq (if_neg io)

/-- One access under the host of its element. -/
theorem ioAccess_attendedTable (access : IoAccess) :
    ioAccess attendedTable (hosts, machine) access = (do
      let (data, next) ← portAccess (hosts 0) machine access
      pure (data, hosts.later, next)) := by
  have decoded : allDevices.decodes access.port = true := by
    rw [decodes_iff]
    exact BitVec.and_zero
  have found : lookupHandler attendedTable access.port = some allDevices :=
    List.find?_cons_of_pos decoded
  have whole : ∀ port : Uint16, port - 0 = port := BitVec.sub_zero
  obtain ⟨table, built, -⟩ := exists_registered (hosts 0)
  rw [ioAccess_of_lookup found]
  unfold portAccess
  rw [built, Outcome.ok_bind]
  cases access <;>
    simp only [IoHandler.serve, ioAccess, callIn, callOut, allDevices, attend,
      attendOut, whole, built, Outcome.ok_bind]
  case outb port val => cases ioOutb table port val machine <;> rfl
  case outw port val => cases ioOutw table port val machine <;> rfl
  case outl port val => cases ioOutl table port val machine <;> rfl
  case inb port => cases ioInb table port machine <;> rfl
  case inw port => cases ioInw table port machine <;> rfl
  case inl port => cases ioInl table port machine <;> rfl

/-- The accesses of an exit as steps of the machine. -/
theorem run_ports (hosts : Hosts) (machine : Machine)
    (accesses : List IoAccess) :
    run deviceStep machine
        (accesses.mapIdx fun index => DeviceStep.port (hosts index)) = (do
      let (delivered, final) ←
        run (ioAccess attendedTable) (hosts, machine) accesses
      pure (delivered.map Vga.VideoResponse.data, final.2)) := by
  induction accesses generalizing hosts machine with
  | nil => rfl
  | cons access rest inductionHypothesis =>
      have others := inductionHypothesis hosts.later
      rw [List.mapIdx_cons, run, run, deviceStep_port, ioAccess_attendedTable]
      cases portAccess (hosts 0) machine access with
      | error stop => rfl
      | ok answered =>
          simp only [Outcome.ok_bind, Outcome.pure_eq_ok]
          change (run deviceStep answered.2
            (rest.mapIdx fun index => DeviceStep.port (hosts.later index)) >>=
              _) = _
          rw [others]
          cases run (ioAccess attendedTable) (hosts.later, answered.2) rest with
          | error stop => rfl
          | ok ended => rfl

/-- A string instruction is its elements, one after the other. -/
theorem handleIo_eq_ok_iff {σ : Type} {table : IoTable σ} {state final : σ}
    {r : Int} (area : DataArea pStat pStat.count.toNat) :
    handleIo table pStat state = .ok (r, after, final) ↔
      ∃ delivered,
        run (ioAccess table) state pStat.accesses =
            .ok (delivered, final) ∧
          r = 0 ∧
            after =
              pStat.after pStat.count.toNat
                (delivered.flatMap dataBytes) := by
  unfold handleIo KvmRun.accesses
  by_cases out : pStat.direction = kvmExitIoOut
  · rw [if_pos out, if_pos out, outLoop_eq (Nat.zero_add _).symm area,
      Outcome.bind_eq_ok_iff]
    constructor
    · rintro ⟨⟨delivered, ended⟩, ran, built⟩
      cases built
      refine ⟨delivered, ran, rfl, ?_⟩
      rw [dataBytes_of_outAccesses ran]
    · rintro ⟨delivered, ran, rfl, rfl⟩
      refine ⟨(delivered, final), ran, ?_⟩
      rw [dataBytes_of_outAccesses ran]
      rfl
  · rw [if_neg out, if_neg out, inLoop_eq (Nat.zero_add _).symm area,
      Outcome.bind_eq_ok_iff]
    constructor
    · rintro ⟨⟨delivered, ended⟩, ran, built⟩
      cases built
      exact ⟨delivered, ran, rfl, rfl⟩
    · rintro ⟨delivered, ran, rfl, rfl⟩
      exact ⟨(delivered, final), ran, rfl⟩

theorem handleExit_of_io (io : pStat.exitReason = kvmExitIo) :
    handleExit machine (hosts, pStat) = (do
      let (r, after, attended) ←
        handleIo attendedTable pStat (hosts, machine)
      Outcome.assert (r = 0)
      pure (after, attended.2)) :=
  if_pos io

theorem handleExit_of_mmio (mmio : pStat.exitReason = kvmExitMmio) :
    handleExit machine (hosts, pStat) = (do
      let (r, after, next) ← handleMmio pStat machine
      Outcome.assert (r = 0)
      pure (after, next)) := by
  have io : pStat.exitReason ≠ kvmExitIo := by
    rw [mmio]
    decide
  have debug : pStat.exitReason ≠ kvmExitDebug := by
    rw [mmio]
    decide
  exact (if_neg io).trans ((if_neg debug).trans (if_pos mmio))

theorem handleExit_io (io : pStat.exitReason = kvmExitIo)
    (area : DataArea pStat pStat.count.toNat) :
    handleExit machine (hosts, pStat) = .ok (after, next) ↔
      ∃ responses,
        run deviceStep machine (exitSteps (hosts, pStat)) =
            .ok (responses, next) ∧
          ExitAnswered (hosts, pStat) responses after := by
  have steps : exitSteps (hosts, pStat) =
      pStat.accesses.mapIdx fun index => DeviceStep.port (hosts index) :=
    if_pos io
  rw [steps, run_ports, handleExit_of_io io]
  simp only [Outcome.bind_eq_ok_iff, exitAnswered_io_iff io]
  constructor
  · rintro ⟨⟨r, left, final⟩, handled, -, -, stored⟩
    cases stored
    obtain ⟨delivered, ran, -, rfl⟩ := (handleIo_eq_ok_iff area).mp handled
    exact ⟨delivered.map .data, ⟨(delivered, final), ran, rfl⟩,
      delivered, length_of_run ran, rfl, rfl⟩
  · rintro ⟨responses, ⟨⟨delivered, final⟩, ran, shown⟩, answers,
      sized, rfl, rfl⟩
    obtain ⟨same, rfl⟩ := Prod.mk.inj (Except.ok.inj shown)
    have equal : delivered = answers :=
      List.map_injective_iff.mpr
        (fun _ _ => Vga.VideoResponse.data.inj) same
    rw [equal] at ran
    exact ⟨(0, _, final),
      (handleIo_eq_ok_iff area).mpr ⟨answers, ran, rfl, rfl⟩,
      ⟨⟩, Outcome.assert_of rfl, rfl⟩

/-- An access to the memory of a device is a step of the machine, which the
process only survives if there is a device. -/
theorem handleMmio_eq_ok_iff {r : Int} :
    handleMmio pStat machine = .ok (r, after, next) ↔
      ∃ pData,
        deviceStep machine
            (if pStat.isWrite ≠ 0 then
              .write pStat.physAddr pStat.len pStat.mmioData
            else .read pStat.physAddr pStat.len) =
              .ok (.mmio 0 pData, next) ∧
          r = 0 ∧
            after =
              if pStat.isWrite ≠ 0 then pStat
              else pStat.patch (pStat.io + 8) pData := by
  unfold handleMmio
  by_cases write : pStat.isWrite ≠ 0
  · simp only [if_pos write, deviceStep, Vga.videoAccess,
      Outcome.bind_eq_ok_iff]
    constructor
    · rintro ⟨⟨result, video⟩, called, _, claimed, built⟩
      have zero := Outcome.assert_eq_ok_iff.mp claimed
      cases built
      cases zero
      exact ⟨[], ⟨_, ⟨_, called, rfl⟩, rfl⟩, rfl, rfl⟩
    · rintro ⟨pData, ⟨response, ⟨⟨result, video⟩, called, built⟩, stored⟩,
        rfl, rfl⟩
      cases built
      cases stored
      exact ⟨_, called, ⟨⟩, Outcome.assert_of rfl, rfl⟩
  · simp only [if_neg write, deviceStep, Vga.videoAccess,
      Outcome.bind_eq_ok_iff]
    constructor
    · rintro ⟨⟨result, pData, video⟩, called, _, claimed, built⟩
      have zero := Outcome.assert_eq_ok_iff.mp claimed
      cases built
      cases zero
      exact ⟨pData, ⟨_, ⟨_, called, rfl⟩, rfl⟩, rfl, rfl⟩
    · rintro ⟨pData, ⟨response, ⟨⟨result, bytes, video⟩, called, built⟩,
        stored⟩, rfl, rfl⟩
      cases built
      cases stored
      exact ⟨_, called, ⟨⟩, Outcome.assert_of rfl, rfl⟩

theorem handleExit_mmio (mmio : pStat.exitReason = kvmExitMmio) :
    handleExit machine (hosts, pStat) = .ok (after, next) ↔
      ∃ responses,
        run deviceStep machine (exitSteps (hosts, pStat)) =
            .ok (responses, next) ∧
          ExitAnswered (hosts, pStat) responses after := by
  have io : pStat.exitReason ≠ kvmExitIo := by
    rw [mmio]
    decide
  have steps : exitSteps (hosts, pStat) =
      [if pStat.isWrite ≠ 0 then
        .write pStat.physAddr pStat.len pStat.mmioData
      else .read pStat.physAddr pStat.len] := by
    refine (if_neg io).trans ((if_pos mmio).trans ?_)
    exact (apply_ite (fun step => [step]) _ _ _).symm
  rw [handleExit_of_mmio mmio, steps]
  simp only [run_one_eq_ok_iff, Outcome.bind_eq_ok_iff,
    exitAnswered_iff io]
  constructor
  · rintro ⟨⟨r, left, final⟩, handled, -, -, stored⟩
    cases stored
    obtain ⟨pData, called, -, same⟩ := handleMmio_eq_ok_iff.mp handled
    exact ⟨_, ⟨_, called, rfl⟩, mmio, pData, rfl, same⟩
  · rintro ⟨responses, ⟨response, called, rfl⟩, -, pData, one, same⟩
    obtain ⟨rfl, -⟩ := List.cons.inj one
    exact ⟨(0, after, next),
      handleMmio_eq_ok_iff.mpr ⟨pData, called, rfl, same⟩,
      ⟨⟩, Outcome.assert_of rfl, rfl⟩

/-- What the kernel hands over as an exit for I/O does the steps that it stands
for; any other exit stops the process. -/
theorem handleExit_eq_ok_iff (promised : FromKernel (hosts, pStat)) :
    handleExit machine (hosts, pStat) = .ok (after, next) ↔
      ∃ responses,
        run deviceStep machine (exitSteps (hosts, pStat)) =
            .ok (responses, next) ∧
          ExitAnswered (hosts, pStat) responses after := by
  by_cases io : pStat.exitReason = kvmExitIo
  · exact handleExit_io io (promised io)
  · by_cases mmio : pStat.exitReason = kvmExitMmio
    · exact handleExit_mmio mmio
    · have stopped :
          handleExit machine (hosts, pStat) = .error .abort := by
        refine (if_neg io).trans ?_
        by_cases debug : pStat.exitReason = kvmExitDebug
        · exact if_pos debug
        · exact (if_neg debug).trans (if_neg mmio)
      rw [stopped]
      refine iff_of_false (fun same => by cases same) ?_
      rintro ⟨responses, -, answered⟩
      exact mmio ((exitAnswered_iff io).mp answered).1

theorem length_of_exitAnswered {exit : Hosts × KvmRun}
    {responses : List Vga.VideoResponse}
    (answered : ExitAnswered exit responses after) :
    responses.length = (exitSteps exit).length := by
  obtain ⟨hosts, pStat⟩ := exit
  by_cases io : pStat.exitReason = kvmExitIo
  · obtain ⟨delivered, sized, rfl, -⟩ :=
      (exitAnswered_io_iff io).mp answered
    have steps : exitSteps (hosts, pStat) =
        pStat.accesses.mapIdx fun index => DeviceStep.port (hosts index) :=
      if_pos io
    rw [steps, List.length_map, List.length_mapIdx, sized]
  · obtain ⟨mmio, pData, rfl, -⟩ := (exitAnswered_iff io).mp answered
    unfold exitSteps
    simp only [if_neg io, if_pos mmio]
    by_cases write : pStat.isWrite ≠ 0
    · rw [if_pos write]
      rfl
    · rw [if_neg write]
      rfl

end Exit

/-! ## The loop -/

/-- The loop serves the exits before the first failure of KVM_RUN. -/
theorem sysRunVcpu_eq (machine : Machine) (returns : List KvmReturn) :
    sysRunVcpu machine returns = (do
      let (left, final) ← run handleExit machine (servedExits returns)
      pure (loopResult returns, left, final)) := by
  induction returns generalizing machine with
  | nil => rfl
  | cons returned rest inductionHypothesis =>
      cases returned with
      | failed => rfl
      | exit hosts pStat =>
          rw [sysRunVcpu, servedExits, run, loopResult]
          cases handleExit machine (hosts, pStat) with
          | error stop => rfl
          | ok served =>
              simp only [Outcome.ok_bind, Outcome.pure_eq_ok,
                inductionHypothesis]
              cases run handleExit served.2 (servedExits rest) with
              | error stop => rfl
              | ok ended => rfl

/-- The process is the machine: over any sequence of exits, the loop goes on
exactly as long as the steps of the guest behind them can be taken one after
the other, and leaves in the structures what they deliver. -/
theorem vcpu_refines_machine {machine final : Machine}
    {returns : List KvmReturn} {r : Option Int} {left : List KvmRun}
    (promised : ∀ exit ∈ servedExits returns, FromKernel exit) :
    sysRunVcpu machine returns = .ok (r, left, final) ↔
      r = loopResult returns ∧
        ∃ blocks,
          run deviceStep machine ((servedExits returns).flatMap exitSteps) =
              .ok (blocks.flatten, final) ∧
            BlocksShow ExitAnswered (servedExits returns) blocks left := by
  have expanded :=
    @run_expand_iff _ _ _ _ _ handleExit deviceStep exitSteps ExitAnswered
      FromKernel (fun exit _ _ _ => handleExit_eq_ok_iff exit)
      length_of_exitAnswered (servedExits returns) promised machine final
      left
  rw [sysRunVcpu_eq, Outcome.bind_eq_ok_iff, ← expanded]
  constructor
  · rintro ⟨⟨served, ended⟩, ran, built⟩
    cases built
    exact ⟨rfl, ran⟩
  · rintro ⟨rfl, ran⟩
    exact ⟨(left, final), ran, rfl⟩

theorem page_positive : 4096 < 0x80000000 := by
  decide

theorem page_header : 32 + 16 ≤ 4096 := by
  decide

/-- An exit for a write of 2 to port 0x92. -/
def gateOn : KvmRun where
  statSz := 4096
  io := 32
  byte := fun index =>
    if index = 8 ∨ index = 64 then 2
    else if index < 32 then 0
    else
      [1, 1, 0x92, 0, 1, 0, 0, 0, 64, 0, 0, 0, 0, 0, 0, 0].getD
        (index - 32) 0
  positive := page_positive
  header := page_header

theorem vcpu_refines_machine_gate :
    ∃ machine left final, Machine.start bare = .ok machine ∧
      sysRunVcpu machine [.exit (fun _ => Host.atNoon) gateOn, .failed] =
        .ok (some 0, left, final) ∧
      final.a20En = 1 := by
  obtain ⟨machine, start⟩ := exists_start_bare
  have promised : ∀ exit ∈ servedExits
      [.exit (fun _ => Host.atNoon) gateOn, .failed], FromKernel exit := by
    intro exit mem
    rw [List.mem_singleton.mp mem]
    intro _
    exact ⟨Or.inl (by decide), fun _ => by decide,
      fun _ => Or.inr (by decide)⟩
  have served : deviceStep machine (.port Host.atNoon (.outb 0x92 2)) =
      .ok (.data .none, { machine with a20En := 1 }) := by
    rw [deviceStep_port, @portAccess_onPart Host.atNoon machine
      (.outb 0x92 2) _ a20Part ps2PosHandler 1 rfl rfl]
    rfl
  have steps : (servedExits [.exit (fun _ => Host.atNoon) gateOn, .failed]).flatMap
      exitSteps = [.port Host.atNoon (.outb 0x92 2)] := by
    rfl
  have answered : BlocksShow ExitAnswered [(fun _ => Host.atNoon, gateOn)]
      [[.data .none]] [gateOn.after gateOn.count.toNat []] :=
    .cons ⟨[.none], rfl, rfl, rfl⟩ .nil
  refine ⟨machine, _, { machine with a20En := 1 }, start,
    (vcpu_refines_machine promised).mpr
      ⟨rfl, [[.data .none]], ?_, answered⟩, rfl⟩
  rw [steps]
  exact run_one served

end Kvmulate.System
