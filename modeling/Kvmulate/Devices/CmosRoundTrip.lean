import Kvmulate.Cmos.OwnNumber
import Kvmulate.Devices.CmosPorts

/-!
# The index and the data of the CMOS

What a guest reads back at ports 0x70 and 0x71.  `cmos_inb` compares its
argument, which is the distance from port 0x70, with the port itself.
-/

namespace Kvmulate.Devices

open DeviceLib Kvmulate.Io

/-- After a write of the index, the index port delivers it, and no register
but the index has changed.  The two accesses happen at times of their own. -/
def IndexReadsBack (first second : Host) (machine : Machine) (index : Uint8) :
    Prop :=
  ∃ selected next,
    portAccess first machine (.outb 0x70 index) = .ok (.none, selected) ∧
      portAccess second selected (.inb 0x70) =
        .ok (.byte (index &&& 0x7F), next) ∧
      next.cmos = machine.cmos.select (index &&& 0x7F)

/-- After a write to the data port, the data port delivers the value, and the
other stored registers have not changed. -/
def DataReadsBack (first second third : Host) (machine : Machine)
    (index val : Uint8) : Prop :=
  ∃ selected written next,
    portAccess first machine (.outb 0x70 index) = .ok (.none, selected) ∧
      portAccess second selected (.outb 0x71 val) = .ok (.none, written) ∧
      portAccess third written (.inb 0x71) = .ok (.byte val, next) ∧
      next.cmos.rtc.statusC = machine.cmos.rtc.statusC ∧
      next.cmos.rtc.statusD = machine.cmos.rtc.statusD ∧
      (index &&& 0x7F ≠ 0x0B →
        next.cmos.rtc.statusB = machine.cmos.rtc.statusB) ∧
      (index &&& 0x7F ≠ 0x0F →
        next.cmos.resetcode = machine.cmos.resetcode)

/-- The registers that `cmos_outb` stores. -/
def storedRegs : List Uint8 := [0x0B, 0x0F]

section Ports

variable {host : Host} {machine : Machine}

theorem portAccess_inb70 :
    portAccess host machine (.inb 0x70) = (do
      let (val, ctx) ←
        Cmos.cmosInb machine.cmos machine.sys host.time.toTm 0
      pure (.byte val, machine.withCmos ctx)) :=
  portAccess_inb_cmos (by decide)

theorem portAccess_inb71 :
    portAccess host machine (.inb 0x71) = (do
      let (val, ctx) ←
        Cmos.cmosInb machine.cmos machine.sys host.time.toTm 1
      pure (.byte val, machine.withCmos ctx)) :=
  portAccess_inb_cmos (by decide)

theorem portAccess_outb71 {val : Uint8} :
    portAccess host machine (.outb 0x71 val) = (do
      let ctx ← Cmos.cmosOutb machine.cmos 1 val
      pure (.none, machine.withCmos ctx)) :=
  portAccess_outb_cmos (by decide)

/-- The index reads back exactly where the register holds its own number. -/
theorem indexReadsBack_iff (settled : Cmos.Settled machine.cmos)
    (first second : Host) (index : Uint8) :
    IndexReadsBack first second machine index ↔
      Cmos.ShowsItself (machine.cmos.select (index &&& 0x7F)) machine.sys
        second.time.toTm := by
  have selects := portAccess_index first machine index
  rw [← Cmos.cmosInb_index_iff (settled.select _) machine.sys second.time]
  constructor
  · intro readsBack
    rcases readsBack with ⟨selected, next, wrote, read, same⟩
    cases selects.symm.trans wrote
    rw [portAccess_inb70] at read
    rcases Outcome.bind_eq_ok_iff.mp read with ⟨⟨val, ctx⟩, called, built⟩
    cases built
    change ctx = machine.cmos.select (index &&& 0x7F) at same
    rw [same] at called
    exact called
  · intro shown
    refine ⟨machine.withCmos (machine.cmos.select (index &&& 0x7F)),
      machine.withCmos (machine.cmos.select (index &&& 0x7F)), selects,
      ?_, rfl⟩
    rw [portAccess_inb70]
    exact Outcome.bind_eq_ok_iff.mpr ⟨_, shown, rfl⟩

/-- The reset code is stored where it is read. -/
theorem resetcode_readsBack (first second third : Host) {index : Uint8}
    (val : Uint8) (reset : index &&& 0x7F = 0x0F) :
    DataReadsBack first second third machine index val := by
  have selects := portAccess_index first machine index
  rw [reset] at selects
  have stores :
      portAccess second (machine.withCmos (machine.cmos.select 0x0F))
          (.outb 0x71 val) =
        .ok (.none,
          machine.withCmos
            { machine.cmos.select 0x0F with resetcode := val }) := by
    rw [portAccess_outb71]
    exact Outcome.bind_eq_ok_iff.mpr
      ⟨_, Cmos.cmosOutb_reset (by decide) rfl, rfl⟩
  refine ⟨_, _, machine.withCmos
    { machine.cmos.select 0x0F with resetcode := val }, selects, stores, ?_,
    rfl, rfl, fun _ => rfl, fun other => absurd reset other⟩
  rw [portAccess_inb71]
  rfl

/-- A write with register B selected changes register C, and register B stays
0. -/
theorem statusB_readsBack_iff (settled : Cmos.Settled machine.cmos)
    (first second third : Host) {index val : Uint8}
    (regB : index &&& 0x7F = 0x0B) :
    DataReadsBack first second third machine index val ↔
      val = 0 ∧ machine.cmos.rtc.statusC = 0 := by
  have selects := portAccess_index first machine index
  rw [regB] at selects
  have stores :
      portAccess second (machine.withCmos (machine.cmos.select 0x0B))
          (.outb 0x71 val) =
        .ok (.none,
          machine.withCmos ((machine.cmos.select 0x0B).storeC val)) := by
    rw [portAccess_outb71]
    exact Outcome.bind_eq_ok_iff.mpr
      ⟨_, Cmos.cmosOutb_regB (by decide) rfl, rfl⟩
  have reads :
      portAccess third
          (machine.withCmos ((machine.cmos.select 0x0B).storeC val))
          (.inb 0x71) =
        .ok (.byte machine.cmos.rtc.statusB,
          machine.withCmos ((machine.cmos.select 0x0B).storeC val)) := by
    rw [portAccess_inb71]
    rfl
  rw [settled.statusB] at reads
  constructor
  · intro readsBack
    rcases readsBack with
      ⟨selected, written, next, wroteIndex, wrote, read, sameC, -⟩
    cases selects.symm.trans wroteIndex
    cases stores.symm.trans wrote
    cases reads.symm.trans read
    exact ⟨rfl, sameC.symm⟩
  · intro both
    rcases both with ⟨zero, clear⟩
    rw [zero] at stores reads ⊢
    exact ⟨_, _, _, selects, stores, reads, clear.symm, rfl,
      fun _ => rfl, fun _ => rfl⟩

end Ports

/-- In every state of a run, the index and the data read back exactly under
these conditions: the selected register holds its own number, and the register
is not B, unless 0 is written and register C is 0. -/
theorem cmos_readsBack_iff {around : Surroundings}
    {initial machine : Machine} {steps : List DeviceStep}
    {responses : List Vga.VideoResponse}
    (started : Machine.start around = .ok initial)
    (ran : run deviceStep initial steps = .ok (responses, machine))
    (first second third : Host) (index val : Uint8) :
    (IndexReadsBack first second machine index ↔
        Cmos.ShowsItself (machine.cmos.select (index &&& 0x7F))
          machine.sys second.time.toTm) ∧
      ((index &&& 0x7F ∈ storedRegs →
          DataReadsBack first second third machine index val) ↔
        (index &&& 0x7F = 0x0B →
          val = 0 ∧ machine.cmos.rtc.statusC = 0)) := by
  have settled : Cmos.Settled machine.cmos :=
    @run_invariant _ _ _ deviceStep
      (fun state => Cmos.Settled state.cmos)
      (fun before stepped => settled_deviceStep before stepped)
      _ _ _ _ (settled_start started) ran
  refine ⟨indexReadsBack_iff settled first second index, ?_⟩
  constructor
  · intro stored regB
    have mem : index &&& 0x7F ∈ storedRegs := by
      rw [regB]
      decide
    exact (statusB_readsBack_iff settled first second third regB).mp
      (stored mem)
  · intro condition mem
    rcases List.mem_cons.mp mem with regB | mem
    · exact (statusB_readsBack_iff settled first second third regB).mpr
        (condition regB)
    · exact resetcode_readsBack first second third val
        (List.mem_singleton.mp mem)

/-- On the full minute the index of the seconds reads back, and so does the
reset code. -/
theorem cmos_readsBack_start :
    ∃ machine, Machine.start bare = .ok machine ∧
      IndexReadsBack Host.atNoon Host.atNoon machine 0x80 ∧
        DataReadsBack Host.atNoon Host.atNoon Host.atNoon machine 0x8F
          0x05 := by
  rcases exists_start_bare with ⟨machine, started⟩
  have seconds :=
    (cmos_readsBack_iff started (rfl : run deviceStep machine [] = _)
      Host.atNoon Host.atNoon Host.atNoon 0x80 0x05).1
  have reset :=
    (cmos_readsBack_iff started (rfl : run deviceStep machine [] = _)
      Host.atNoon Host.atNoon Host.atNoon 0x8F 0x05).2
  refine ⟨machine, started, seconds.mpr rfl, ?_⟩
  exact reset.mpr (fun regB => absurd regB (by decide)) (by decide)

/-- After the start, the index of register B reads back as 0, and a mode that
is stored there is lost. -/
theorem cmos_regB_not_readBack :
    ∃ machine, Machine.start bare = .ok machine ∧
      ¬ IndexReadsBack Host.atNoon Host.atNoon machine 0x0B ∧
        ¬ DataReadsBack Host.atNoon Host.atNoon Host.atNoon machine 0x0B
          0x02 := by
  rcases exists_start_bare with ⟨machine, started⟩
  have settled := settled_start started
  refine ⟨machine, started, ?_, ?_⟩
  · intro readsBack
    exact (indexReadsBack_iff settled _ _ 0x0B).mp readsBack
  · intro readsBack
    have zero : (0x02 : Uint8) = 0 :=
      ((statusB_readsBack_iff settled _ _ _ (by decide)).mp readsBack).1
    exact absurd zero (by decide)

end Kvmulate.Devices
