import Kvmulate.Lib.Script
import Kvmulate.System.GuestMemory

/-!
# Setting up KVM

`sys_create` and `fixupCPUID` of `system.c`, and the script that they follow.
What the host answers to a call, given the calls before it, is an input.
-/

namespace Kvmulate.Boot

open DeviceLib Kvmulate.System

/-! ## The calls -/

/-- `struct kvm_cpuid_entry2`, whose other fields are left 0. -/
structure CpuidEntry where
  function : Uint32
  eax : Uint32
  ebx : Uint32
  ecx : Uint32
  edx : Uint32
deriving DecidableEq, Repr

/-- `open`, `mmap` and the requests of `ioctl`, each with the descriptor that
it is made on. -/
inductive KvmCall where
  | openKvm
  | getApiVersion (fd : Int)
  | createVm (fd : Int)
  | setTssAddr (fd : Int) (addr : Uint64)
  | createIrqchip (fd : Int)
  | createPit (fd : Int)
  | createVcpu (fd id : Int)
  | getVcpuMmapSize (fd : Int)
  | mmap (size : Uint64) (fd : Int)
  | setCpuid2 (fd : Int) (entries : List CpuidEntry)
deriving DecidableEq, Repr

abbrev HostKernel := Environment KvmCall Int

def kvmApiVersion : Int := 12

/-! ## The structures -/

/-- `vcpu_t`; `cpuid_data` without the entries behind `cpuid.nent`. -/
structure Vcpu where
  fd : Int
  id : Int
  stat : Int
  statSz : Uint64
  cpuidData : List CpuidEntry
deriving DecidableEq, Repr

/-- The fields of `sys_t` that do not describe the memory. -/
structure KvmSys where
  kvmfd : Int
  vmfd : Int
  uNumVCPUs : Uint8
  vcpu : List Vcpu
deriving DecidableEq, Repr

/-! ## The functions -/

def checkExtensions (_fd : Int) : Int := 0

/-- The entries that `fixupCPUID` fills, in their order. -/
def cpuidEntries : List CpuidEntry :=
  [⟨0x0, 0x4, 0x756E6547, 0x6C65746E, 0x49656E69⟩,
    ⟨0x80000000, 0x8000000A, 0x756E6547, 0x6C65746E, 0x49656E69⟩,
    ⟨0x80000002, 0x554D4551, 0x72695620, 0x6C617574, 0x55504320⟩,
    ⟨0x80000003, 0x72657620, 0x6E6F6973, 0x342E3120, 0x302E⟩,
    ⟨0x80000001, 0x623, 0x0, 0x1, 0x2191ABFD⟩,
    ⟨0x1, 0x623, 0x800, 0x80802001, 0x78BFBFD⟩]

/-- A request that is refused stops the process. -/
def fixupCPUID (host : HostKernel) (pCPU : Vcpu) (calls : List KvmCall) :
    Outcome (Vcpu × List KvmCall) := do
  let fixed := { pCPU with cpuidData := cpuidEntries }
  let call := KvmCall.setCpuid2 fixed.fd fixed.cpuidData
  Outcome.assert (¬ host calls call < 0)
  pure (fixed, calls ++ [call])

/-- The loop over the processors, of which `left` are left; all are created
under the number 0. -/
def createVcpus (host : HostKernel) (kvmfd vmfd cpu : Int)
    (vcpu : List Vcpu) : Nat → List KvmCall →
      Outcome (Option (List Vcpu) × List KvmCall)
  | 0, calls => pure (some vcpu, calls)
  | left + 1, calls =>
      attempt host (.createVcpu vmfd 0) (· < 0) calls fun fd calls =>
      attempt host (.getVcpuMmapSize kvmfd) (· < 0) calls
        fun mmapsize calls =>
      attempt host (.mmap (BitVec.ofInt 64 mmapsize) fd) (· = -1) calls
        fun pAddr calls => do
      let statSz := BitVec.ofInt 64 mmapsize
      let (pCPU, calls) ←
        fixupCPUID host ⟨fd, cpu, pAddr, statSz, []⟩ calls
      createVcpus host kvmfd vmfd (cpu + 1) (vcpu ++ [pCPU]) left calls

/-- The KVM part of `sys_create`. -/
def createVm (host : HostKernel) (uNumVCPUs : Uint8) :
    Outcome (Option KvmSys × List KvmCall) :=
  let identityBase : Uint64 := 0xFFFBC000
  attempt host .openKvm (· = -1) [] fun kvmfd calls =>
  attempt host (.getApiVersion kvmfd) (· ≠ kvmApiVersion) calls
    fun _ calls =>
  attempt host (.createVm kvmfd) (· < 0) calls fun vmfd calls =>
  if checkExtensions vmfd ≠ 0 then pure (none, calls) else
  attempt host (.setTssAddr vmfd (identityBase + 0x1000)) (· < 0) calls
    fun _ calls =>
  attempt host (.createIrqchip vmfd) (· ≠ 0) calls fun _ calls =>
  attempt host (.createPit vmfd) (· ≠ 0) calls fun _ calls =>
  andThen (createVcpus host kvmfd vmfd 0 [] uNumVCPUs.toNat calls)
    fun vcpu calls => pure (some ⟨kvmfd, vmfd, uNumVCPUs, vcpu⟩, calls)

/-- `sys_create` up to the devices: on an error it returns `NULL` and leaves
behind what it has created. -/
def sysCreate (host : HostKernel) (kvm : Kvm) (seabios vgabios : Rom)
    (blocks : Fin 4 → Uint64) (uNumMegsRAM : Uint32) (uNumVCPUs : Uint8) :
    Outcome (Option (KvmSys × Sys) × List KvmCall) :=
  andThen (createVm host uNumVCPUs) fun pSys calls => do
    let mapped ← System.sysCreate kvm seabios vgabios blocks uNumMegsRAM
    pure (mapped.map fun sys => (pSys, sys), calls)

/-! ## The script -/

section Script

variable {host : HostKernel} {calls : List KvmCall} {answers : List Int}

/-- The requests before those for the processors. -/
def vmRequests : List (Request KvmCall Int) :=
  [⟨fun _ => .openKvm, fun given => given = -1, false⟩,
    ⟨fun answers => .getApiVersion (answers.getD 0 0),
      fun given => given ≠ 12, false⟩,
    ⟨fun answers => .createVm (answers.getD 0 0), fun given => given < 0,
      false⟩,
    ⟨fun answers => .setTssAddr (answers.getD 2 0) 0xFFFBD000,
      fun given => given < 0, false⟩,
    ⟨fun answers => .createIrqchip (answers.getD 2 0),
      fun given => given ≠ 0, false⟩,
    ⟨fun answers => .createPit (answers.getD 2 0), fun given => given ≠ 0,
      false⟩]

/-- Where the answers for a processor start. -/
def vcpuPlace (cpu : Nat) : Nat := 6 + 4 * cpu

def vcpuRequests (cpu : Nat) : List (Request KvmCall Int) :=
  [⟨fun answers => .createVcpu (answers.getD 2 0) 0, fun given => given < 0,
      false⟩,
    ⟨fun answers => .getVcpuMmapSize (answers.getD 0 0),
      fun given => given < 0, false⟩,
    ⟨fun answers =>
        .mmap (BitVec.ofInt 64 (answers.getD (vcpuPlace cpu + 1) 0))
          (answers.getD (vcpuPlace cpu) 0),
      fun given => given = -1, false⟩,
    ⟨fun answers => .setCpuid2 (answers.getD (vcpuPlace cpu) 0) cpuidEntries,
      fun given => given < 0, true⟩]

def bootScript (processors : Nat) : List (Request KvmCall Int) :=
  vmRequests ++ (List.range processors).flatMap vcpuRequests

/-- A processor, from the answers. -/
def bootedVcpu (answers : List Int) (cpu : Nat) : Vcpu :=
  ⟨answers.getD (vcpuPlace cpu) 0, cpu, answers.getD (vcpuPlace cpu + 2) 0,
    BitVec.ofInt 64 (answers.getD (vcpuPlace cpu + 1) 0), cpuidEntries⟩

/-- The system, from the answers. -/
def booted (uNumVCPUs : Uint8) (answers : List Int) : KvmSys :=
  ⟨answers.getD 0 0, answers.getD 2 0, uNumVCPUs,
    (List.range uNumVCPUs.toNat).map (bootedVcpu answers)⟩

theorem getD_answers {place : Nat} (sized : answers.length = place)
    (given : List Int) (offset : Nat) :
    (answers ++ given).getD (place + offset) 0 = given.getD offset 0 := by
  rw [List.getD_append_right _ _ _ _ (by omega), sized,
    Nat.add_sub_cancel_left]

/-- The requests for one processor fill its structure. -/
theorem bootedVcpu_of_answers {cpu : Nat} {fd mmapsize pAddr set : Int}
    (sized : answers.length = vcpuPlace cpu) :
    bootedVcpu (answers ++ [fd, mmapsize, pAddr, set]) cpu =
      ⟨fd, cpu, pAddr, BitVec.ofInt 64 mmapsize, cpuidEntries⟩ := by
  have first := getD_answers sized [fd, mmapsize, pAddr, set] 0
  rw [bootedVcpu, getD_answers sized, getD_answers sized]
  rw [Nat.add_zero] at first
  rw [first]
  rfl

theorem bootedVcpu_append {cpu : Nat} (more : List Int)
    (inside : vcpuPlace cpu + 4 ≤ answers.length) :
    bootedVcpu (answers ++ more) cpu = bootedVcpu answers cpu := by
  rw [bootedVcpu, List.getD_append _ _ _ _ (by omega),
    List.getD_append _ _ _ _ (by omega), List.getD_append _ _ _ _ (by omega)]
  rfl

/-- The processors that there are keep their structures. -/
theorem map_bootedVcpu_append {cpu : Nat} (more : List Int)
    (sized : answers.length = vcpuPlace cpu) :
    (List.range cpu).map (bootedVcpu (answers ++ more)) =
      (List.range cpu).map (bootedVcpu answers) := by
  apply List.map_congr_left
  intro other mem
  have before := List.mem_range.mp mem
  apply bootedVcpu_append
  unfold vcpuPlace at sized ⊢
  omega

/-- One turn of the loop follows the requests for its processor. -/
theorem createVcpu_eq_perform {α : Type} {cpu : Nat} {kvmfd vmfd : Int}
    {next : Vcpu → List KvmCall → Outcome (Option α × List KvmCall)}
    {finish : List Int → List KvmCall → Outcome (Option α × List KvmCall)}
    {script : List (Request KvmCall Int)}
    (sized : answers.length = vcpuPlace cpu)
    (isKvmfd : answers.getD 0 0 = kvmfd) (isVmfd : answers.getD 2 0 = vmfd)
    (rest : ∀ given calls, given.length = 4 →
      next (bootedVcpu (answers ++ given) cpu) calls =
        andThen (perform host script calls (answers ++ given)) finish) :
    (attempt host (.createVcpu vmfd 0) (· < 0) calls fun fd calls =>
      attempt host (.getVcpuMmapSize kvmfd) (· < 0) calls
        fun mmapsize calls =>
      attempt host (.mmap (BitVec.ofInt 64 mmapsize) fd) (· = -1) calls
        fun pAddr calls => do
      let statSz := BitVec.ofInt 64 mmapsize
      let (pCPU, calls) ←
        fixupCPUID host ⟨fd, cpu, pAddr, statSz, []⟩ calls
      next pCPU calls) =
      andThen (perform host (vcpuRequests cpu ++ script) calls answers)
        finish := by
  apply attempt_eq_perform (congrArg (KvmCall.createVcpu · 0) isVmfd.symm)
    (fun _ => rfl) rfl
  generalize host calls (.createVcpu vmfd 0) = fd
  have kvmfdKept : (answers ++ [fd]).getD 0 0 = kvmfd := by
    have some : 0 < answers.length := by
      rw [sized, vcpuPlace]
      omega
    rw [List.getD_append _ _ _ _ some, isKvmfd]
  apply attempt_eq_perform (congrArg KvmCall.getVcpuMmapSize kvmfdKept.symm)
    (fun _ => rfl) rfl
  generalize host _ (.getVcpuMmapSize kvmfd) = mmapsize
  have isFd : (answers ++ [fd] ++ [mmapsize]).getD (vcpuPlace cpu) 0 = fd := by
    rw [List.append_assoc]
    exact getD_answers sized _ 0
  have isSize : (answers ++ [fd] ++ [mmapsize]).getD (vcpuPlace cpu + 1) 0 =
      mmapsize := by
    rw [List.append_assoc]
    exact getD_answers sized _ 1
  have mapped : KvmCall.mmap (BitVec.ofInt 64 mmapsize) fd =
      .mmap (BitVec.ofInt 64
        ((answers ++ [fd] ++ [mmapsize]).getD (vcpuPlace cpu + 1) 0))
        ((answers ++ [fd] ++ [mmapsize]).getD (vcpuPlace cpu) 0) := by
    rw [isFd, isSize]
  apply attempt_eq_perform mapped (fun _ => rfl) rfl
  generalize host _ (.mmap (BitVec.ofInt 64 mmapsize) fd) = pAddr
  have fdKept :
      (answers ++ [fd] ++ [mmapsize] ++ [pAddr]).getD (vcpuPlace cpu) 0 =
        fd := by
    rw [List.append_assoc, List.append_assoc]
    exact getD_answers sized _ 0
  unfold fixupCPUID
  simp only [bind_assoc, Outcome.pure_eq_ok, Outcome.ok_bind]
  apply assert_eq_perform
    (congrArg (KvmCall.setCpuid2 · cpuidEntries) fdKept.symm) (by simp) rfl
  generalize host _ (.setCpuid2 fd cpuidEntries) = set
  have whole : answers ++ [fd] ++ [mmapsize] ++ [pAddr] ++ [set] =
      answers ++ [fd, mmapsize, pAddr, set] := by
    simp only [List.append_assoc, List.cons_append, List.nil_append]
  have filled := rest [fd, mmapsize, pAddr, set]
    (calls ++ [.createVcpu vmfd 0] ++ [.getVcpuMmapSize kvmfd] ++
      [.mmap (BitVec.ofInt 64 mmapsize) fd] ++ [.setCpuid2 fd cpuidEntries])
    rfl
  rw [bootedVcpu_of_answers sized] at filled
  rw [whole]
  exact filled

/-- The loop follows the requests for the processors that are left. -/
theorem createVcpus_eq_perform {cpu left : Nat} {kvmfd vmfd : Int}
    {vcpu : List Vcpu} (sized : answers.length = vcpuPlace cpu)
    (isKvmfd : answers.getD 0 0 = kvmfd) (isVmfd : answers.getD 2 0 = vmfd)
    (created : vcpu = (List.range cpu).map (bootedVcpu answers)) :
    createVcpus host kvmfd vmfd cpu vcpu left calls =
      andThen (perform host
        ((List.range' cpu left).flatMap vcpuRequests) calls answers)
          fun all calls =>
            pure (some ((List.range (cpu + left)).map (bootedVcpu all)),
              calls) := by
  induction left generalizing cpu vcpu calls answers with
  | zero =>
      rw [created]
      rfl
  | succ left inductionHypothesis =>
      rw [List.range'_succ, List.flatMap_cons, createVcpus]
      apply @createVcpu_eq_perform host _ answers _ cpu kvmfd vmfd
        (fun pCPU calls =>
          createVcpus host kvmfd vmfd (cpu + 1) (vcpu ++ [pCPU]) left calls)
        _ _ sized isKvmfd isVmfd
      intro given calls four
      have place : (answers ++ given).length = vcpuPlace (cpu + 1) := by
        rw [List.length_append, sized, four, vcpuPlace, vcpuPlace]
        omega
      have large : 2 < answers.length := by
        rw [sized, vcpuPlace]
        omega
      have kvmfdKept : (answers ++ given).getD 0 0 = kvmfd := by
        rw [List.getD_append _ _ _ _ (by omega), isKvmfd]
      have vmfdKept : (answers ++ given).getD 2 0 = vmfd := by
        rw [List.getD_append _ _ _ _ large, isVmfd]
      have extended :
          vcpu ++ [bootedVcpu (answers ++ given) cpu] =
            (List.range (cpu + 1)).map (bootedVcpu (answers ++ given)) := by
        rw [List.range_succ, List.map_append, List.map_singleton,
          map_bootedVcpu_append given sized, created]
      have next := @inductionHypothesis calls _ _ _ place kvmfdKept vmfdKept
        extended
      rw [Nat.add_right_comm] at next
      exact next

/-- The KVM part of `sys_create` follows its script. -/
theorem createVm_eq_perform (uNumVCPUs : Uint8) :
    createVm host uNumVCPUs =
      andThen (perform host (bootScript uNumVCPUs.toNat) [] [])
        fun answers calls => pure (some (booted uNumVCPUs answers), calls) := by
  unfold createVm bootScript vmRequests
  simp only [List.cons_append, List.nil_append]
  refine attempt_eq_perform ?_ (fun _ => rfl) rfl ?_
  · rfl
  generalize host [] .openKvm = kvmfd
  refine attempt_eq_perform ?_ (fun _ => rfl) rfl ?_
  · rfl
  generalize host _ (.getApiVersion kvmfd) = version
  refine attempt_eq_perform ?_ (fun _ => rfl) rfl ?_
  · rfl
  generalize host _ (.createVm kvmfd) = vmfd
  rw [if_neg (fun extensions => extensions rfl)]
  refine attempt_eq_perform ?_ (fun _ => rfl) rfl ?_
  · rfl
  generalize host _ (.setTssAddr vmfd _) = tss
  refine attempt_eq_perform ?_ (fun _ => rfl) rfl ?_
  · rfl
  generalize host _ (.createIrqchip vmfd) = irqchip
  refine attempt_eq_perform ?_ (fun _ => rfl) rfl ?_
  · rfl
  generalize host _ (.createPit vmfd) = pit
  have loop := @createVcpus_eq_perform host
    [.openKvm, .getApiVersion kvmfd, .createVm kvmfd,
      .setTssAddr vmfd 0xFFFBD000, .createIrqchip vmfd, .createPit vmfd]
    [kvmfd, version, vmfd, tss, irqchip, pit] 0 uNumVCPUs.toNat kvmfd vmfd []
    rfl rfl rfl rfl
  refine (congrArg (andThen · _) loop).trans ?_
  rw [andThen_assoc, ← List.range_eq_range']
  apply andThen_congr
  intro all made done
  rcases perform_eq_some done with ⟨-, ⟨more, rfl⟩, -⟩
  rw [Nat.zero_add]
  rfl

/-- The second processor is asked for under the number of the first. -/
theorem asked_twice {processors : Nat} {all : List Int} {made : List KvmCall}
    (several : 2 ≤ processors)
    (done : perform host (bootScript processors) [] [] =
      .ok (some all, made)) :
    ∃ earlier fd, ¬ host earlier (.createVcpu fd 0) < 0 ∧
      KvmCall.createVcpu fd 0 ∈ earlier := by
  rcases Nat.exists_eq_add_of_le several with ⟨others, rfl⟩
  have split : bootScript (2 + others) =
      (vmRequests ++ vcpuRequests 0) ++
        (vcpuRequests 1 ++
          (List.range' 2 others).flatMap vcpuRequests) := by
    rw [bootScript, List.range_eq_range', Nat.add_comm, List.range'_succ,
      List.range'_succ, List.flatMap_cons, List.flatMap_cons,
      List.append_assoc]
  rw [split] at done
  rcases accepted_of_perform done with
    ⟨before, earlier, front, accepted, -, -⟩
  rcases @accepted_of_perform _ _ host vmRequests _ _ _ _ _ _ front with
    ⟨first, calls, start, -, asked, kept⟩
  have sized := (perform_eq_some start).2.2
  refine ⟨earlier, before.getD 2 0, of_decide_eq_false accepted, ?_⟩
  rcases kept with ⟨more, rfl⟩
  rw [List.getD_append _ _ _ _ (by rw [sized]; decide)]
  exact asked.subset (List.mem_append_right _ List.mem_cons_self)

end Script

/-- As the kernel does, refuse a number that a processor already has. -/
def RefusesTwice (host : HostKernel) : Prop :=
  ∀ calls fd id, KvmCall.createVcpu fd id ∈ calls →
    host calls (.createVcpu fd id) < 0

/-- A kernel that accepts everything else. -/
def onceKernel : HostKernel
  | _, .getApiVersion _ => 12
  | _, .createIrqchip _ => 0
  | _, .createPit _ => 0
  | calls, .createVcpu fd id =>
      if KvmCall.createVcpu fd id ∈ calls then -1 else 7
  | _, _ => 3

end Kvmulate.Boot
