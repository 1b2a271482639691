import Kvmulate.Ata.DataRequest

/-!
# Soft reset

`do_softreset` rewrites the registers and clears a block of the read buffer.
It does not touch the offsets and sizes of the transfers, and it relies on a
buffer being there.
-/

namespace Kvmulate.Ata

open DeviceLib

/-! ## The reset -/

/-- The controller after a soft reset of the present device. -/
def afterReset (cont : AtaController) (val : Uint8) : AtaController :=
  { cont with
    master :=
      { cont.master with
        readBuffer :=
          some (clearedBlock (cont.master.readBuffer.getD []))
        reg := resetRegs val }
    irq14 := false }

theorem eventOf_softReset {cont : AtaController} (fixed : Fixed cont)
    (selected : cont.pCurrDev = .master) {val : Uint8}
    (srst : val &&& bitDeviceControlSrst ≠ 0) :
    eventOf cont (.outb portWDeviceControl val) = .reset := by
  have present : cont.currDev.bIsPresent = true := by
    rw [currDev_of_master selected, fixed.masterPresent]
  have other :
      ¬ (portWDeviceControl = portFloppy0 ∨
        portWDeviceControl = portRwDeviceHead ∨
        cont.currDev.bIsPresent = false) := by
    simp +decide [present]
  have notCommand : portWDeviceControl ≠ portWCommand := by
    decide
  simp only [eventOf, if_neg other, if_neg notCommand, srst, ne_eq,
    not_false_eq_true, and_self, if_true]

theorem access_softReset (host : HostCalls) {cont : AtaController}
    (fixed : Fixed cont) (selected : cont.pCurrDev = .master)
    {val : Uint8} (srst : val &&& bitDeviceControlSrst ≠ 0) :
    access cont (host, .outb portWDeviceControl val) =
      (doSoftreset cont).bind fun reset =>
        .ok (.none,
          (reset.setReg .deviceControl val).setReg .features val) := by
  have present : cont.currDev.bIsPresent ≠ false := by
    rw [currDev_of_master selected, fixed.masterPresent]
    decide
  change (pioOutb host cont portWDeviceControl val).bind _ = _
  unfold pioOutb
  rw [if_neg (by decide), if_neg (by decide), if_neg present,
    if_neg (by decide), if_pos rfl, if_pos srst]
  cases doSoftreset cont with
  | error stop => rfl
  | ok reset => rfl

/-- The two registers that the handler writes behind the reset. -/
theorem controlled_reset {cont : AtaController} {buffer : List Uint8}
    (selected : cont.pCurrDev = .master)
    (allocated : cont.master.readBuffer = some buffer) (val : Uint8) :
    (({ cont with
          master :=
            { cont.master with
              readBuffer := some (clearedBlock buffer)
              reg :=
                Regs.setStatus
                  (Function.update
                    (Function.update (fun _ => 0) .sectorCount 0x01)
                    .sectorNumber 0x01)
                  bitStatusDrdy }
          irq14 := false } : AtaController).setReg .deviceControl
        val).setReg .features val =
      afterReset cont val := by
  rw [setReg_of_master (by simpa using selected),
    setReg_of_master (by exact selected), afterReset, allocated]
  rfl

/-- The reset returns exactly when a block is there to be cleared. -/
theorem access_softReset_eq_ok_iff (host : HostCalls)
    {cont next : AtaController} {response : Response}
    (fixed : Fixed cont) (selected : cont.pCurrDev = .master)
    {val : Uint8} (srst : val &&& bitDeviceControlSrst ≠ 0) :
    access cont (host, .outb portWDeviceControl val) =
        .ok (response, next) ↔
      512 ≤ (cont.master.readBuffer.getD []).length ∧
        response = .none ∧ next = afterReset cont val := by
  rw [access_softReset host fixed selected srst]
  constructor
  · intro called
    cases outcome : doSoftreset cont with
    | error stop =>
        rw [outcome] at called
        cases called
    | ok reset =>
        rw [outcome] at called
        obtain ⟨buffer, allocated, long, rfl⟩ :=
          (doSoftreset_eq_ok_iff selected).mp outcome
        cases called
        refine ⟨?_, rfl, controlled_reset selected allocated val⟩
        rw [allocated]
        exact long
  · rintro ⟨long, rfl, rfl⟩
    cases allocated : cont.master.readBuffer with
    | none =>
        rw [allocated] at long
        simp at long
    | some buffer =>
        rw [allocated] at long
        have outcome :=
          (doSoftreset_eq_ok_iff selected).mpr
            ⟨buffer, allocated, long, rfl⟩
        rw [outcome]
        exact congrArg (fun after => Except.ok (Response.none, after))
          (controlled_reset selected allocated val)

/-! ## What a reset should leave behind -/

/-- An access of the data port. -/
def DataWord : Access → Prop
  | .inw _ => True
  | .outw _ _ => True
  | _ => False

/-- Nothing of the transfers before the reset is left. -/
structure Forgotten (cont : AtaController) : Prop where
  selected : cont.pCurrDev = .master
  irq : cont.irq14 = false
  drq : ¬ cont.master.drq
  readDone :
    ¬ cont.master.readBufferOffset < cont.master.readBufferSize
  writeDone :
    ¬ cont.master.writeBufferOffset < cont.master.writeBufferSize
  inert :
    ∀ inputs responses final,
      (∀ input ∈ inputs, DataWord input.2) →
        run access cont inputs = .ok (responses, final) →
          ¬ final.master.drq ∧
            final.master.backingfile.data = cont.master.backingfile.data

/-- The same soft reset of two controllers returns, and leaves the same
registers and no history behind. -/
def ResetForgets (first second : AtaController) (val : Uint8) : Prop :=
  ∀ host, ∃ firstNext secondNext,
    access first (host, .outb portWDeviceControl val) =
        .ok (.none, firstNext) ∧
      access second (host, .outb portWDeviceControl val) =
          .ok (.none, secondNext) ∧
        Forgotten firstNext ∧ Forgotten secondNext ∧
          firstNext.master.reg = secondNext.master.reg

/-- A buffer was read, to its end, and every announced word was written. -/
structure History.Settled (history : History) : Prop where
  allocated : 0 < history.readWords
  read : history.wordsRead = history.readWords
  written : history.written.length = history.writeWords

section Reset

variable {cont : AtaController} {history : History}

/-- A block is there exactly when some command announced words to read. -/
theorem ReadTracks.block_iff {dev : AtaDev}
    (tracks : ReadTracks dev history) :
    512 ≤ (dev.readBuffer.getD []).length ↔ 0 < history.readWords := by
  rw [tracks.length]
  have blocks := tracks.blocks
  omega

/-- No data word is served once all announced words were transferred. -/
theorem not_served_dataWord {next : AtaController} {host : HostCalls}
    {guest : Access} {response : Response} (tracks : Tracks cont history)
    (settled : history.Settled) (word : DataWord guest) :
    access cont (host, guest) ≠ .ok (response, next) := by
  intro called
  have served := served_of_access tracks.fixed called
  have read := settled.read
  have written := settled.written
  cases guest with
  | outb => exact word
  | inb => exact word
  | inw =>
      cases served with
      | dataIn _ inside =>
          have announced := tracks.read.inside_iff.mp inside
          omega
  | outw =>
      cases served with
      | dataOut _ inside _ =>
          have announced := tracks.write.inside_iff.mp inside
          omega
      | commit _ inside _ =>
          have announced := tracks.write.inside_iff.mp inside
          omega

theorem not_drq_afterReset (cont : AtaController) (val : Uint8) :
    ¬ (afterReset cont val).master.drq := by
  have status :
      (afterReset cont val).master.reg .status = bitStatusDrdy := by
    simp only [afterReset, resetRegs, ne_eq, reduceCtorEq,
      not_false_eq_true, Function.update_of_ne, setStatus_status]
  unfold AtaDev.drq
  rw [status]
  decide

theorem tracks_afterReset (tracks : Tracks cont history)
    (selected : cont.pCurrDev = .master) {val : Uint8}
    (srst : val &&& bitDeviceControlSrst ≠ 0)
    (allocated : 0 < history.readWords) :
    Tracks (afterReset cont val) { history with latest := none } := by
  have called :=
    (access_softReset_eq_ok_iff HostCalls.full tracks.fixed selected
      srst).mpr ⟨tracks.read.block_iff.mpr allocated, rfl, rfl⟩
  have reset := tracks.step called
  rw [eventOf_softReset tracks.fixed selected srst] at reset
  exact reset

theorem forgotten_afterReset (tracks : Tracks cont history)
    (selected : cont.pCurrDev = .master) {val : Uint8}
    (srst : val &&& bitDeviceControlSrst ≠ 0)
    (settled : history.Settled) : Forgotten (afterReset cont val) where
  selected := selected
  irq := rfl
  drq := not_drq_afterReset cont val
  readDone := by
    have offset := tracks.read.offset
    have size := tracks.read.size
    have read := settled.read
    change ¬ cont.master.readBufferOffset < cont.master.readBufferSize
    omega
  writeDone := by
    have offset := tracks.write.offset
    have size := tracks.write.size
    have written := settled.written
    change ¬ cont.master.writeBufferOffset < cont.master.writeBufferSize
    omega
  inert := by
    intro inputs responses final words ran
    cases inputs with
    | nil =>
        cases ran
        exact ⟨not_drq_afterReset cont val, rfl⟩
    | cons input rest =>
        obtain ⟨host, guest⟩ := input
        obtain ⟨response, next, _, called, -, -⟩ :=
          run_cons_eq_ok_iff.mp ran
        have reset :=
          tracks_afterReset tracks selected srst settled.allocated
        have still : { history with latest := none }.Settled :=
          ⟨settled.allocated, settled.read, settled.written⟩
        exact absurd called
          (not_served_dataWord reset still
            (words (host, guest) List.mem_cons_self))

/-- A reset that returns and leaves nothing behind found a settled history. -/
theorem settled_of_forgotten {next : AtaController} {host : HostCalls}
    {response : Response} (tracks : Tracks cont history)
    (selected : cont.pCurrDev = .master) {val : Uint8}
    (srst : val &&& bitDeviceControlSrst ≠ 0)
    (called : access cont (host, .outb portWDeviceControl val) =
      .ok (response, next))
    (forgotten : Forgotten next) : history.Settled := by
  obtain ⟨block, -, rfl⟩ :=
    (access_softReset_eq_ok_iff host tracks.fixed selected srst).mp called
  have readDone := forgotten.readDone
  have writeDone := forgotten.writeDone
  simp only [afterReset] at readDone writeDone
  have readOffset := tracks.read.offset
  have readSize := tracks.read.size
  have readBound := tracks.read.bound
  have writeOffset := tracks.write.offset
  have writeSize := tracks.write.size
  have writeBound := tracks.write.bound
  exact ⟨tracks.read.block_iff.mp block, by omega, by omega⟩

end Reset

/-- Two reachable controllers with the master selected forget their histories
in a soft reset exactly when both histories are settled. -/
theorem softReset_forgets_iff (firstImage secondImage : List Uint8)
    (firstInputs secondInputs : List (HostCalls × Access))
    (firstResponses secondResponses : List Response)
    (first second : AtaController × History)
    (ranFirst :
      run accessObserved (x86AtaInit firstImage, History.start)
          firstInputs = .ok (firstResponses, first))
    (ranSecond :
      run accessObserved (x86AtaInit secondImage, History.start)
          secondInputs = .ok (secondResponses, second))
    (firstSelected : first.1.pCurrDev = .master)
    (secondSelected : second.1.pCurrDev = .master) (val : Uint8)
    (srst : val &&& bitDeviceControlSrst ≠ 0) :
    ResetForgets first.1 second.1 val ↔
      first.2.Settled ∧ second.2.Settled := by
  have firstTracks := related_of_run ranFirst
  have secondTracks := related_of_run ranSecond
  constructor
  · intro forgets
    obtain ⟨firstNext, secondNext, firstCalled, secondCalled,
      firstForgotten, secondForgotten, -⟩ := forgets HostCalls.full
    exact
      ⟨settled_of_forgotten firstTracks firstSelected srst firstCalled
          firstForgotten,
        settled_of_forgotten secondTracks secondSelected srst
          secondCalled secondForgotten⟩
  · rintro ⟨firstSettled, secondSettled⟩ host
    have firstBlock :=
      firstTracks.read.block_iff.mpr firstSettled.allocated
    have secondBlock :=
      secondTracks.read.block_iff.mpr secondSettled.allocated
    exact ⟨afterReset first.1 val, afterReset second.1 val,
      (access_softReset_eq_ok_iff host firstTracks.fixed firstSelected
        srst).mpr ⟨firstBlock, rfl, rfl⟩,
      (access_softReset_eq_ok_iff host secondTracks.fixed secondSelected
        srst).mpr ⟨secondBlock, rfl, rfl⟩,
      forgotten_afterReset firstTracks firstSelected srst firstSettled,
      forgotten_afterReset secondTracks secondSelected srst
        secondSettled, rfl⟩

/-- One controller was never used, the other one was given a command. -/
theorem softReset_forgets_iff_identify :
    ∃ responses second,
      run accessObserved (x86AtaInit [], History.start)
            [(HostCalls.full, .outb portWCommand cmdIdentifyDeviceCode)] =
          .ok (responses, second) ∧
        (ResetForgets (x86AtaInit []) second.1 0x04 ↔
          History.start.Settled ∧ second.2.Settled) :=
  ⟨_, _, rfl,
    softReset_forgets_iff [] [] []
      [(HostCalls.full, .outb portWCommand cmdIdentifyDeviceCode)] [] _
      (x86AtaInit [], History.start) _ rfl rfl rfl rfl 0x04 (by decide)⟩

/-- A soft reset before any command clears a buffer that is not there. -/
theorem softReset_not_always_forgets :
    ¬ ∀ (image : List Uint8) (firstInputs secondInputs :
        List (HostCalls × Access))
        (firstResponses secondResponses : List Response)
        (first second : AtaController) (val : Uint8),
      run access (x86AtaInit image) firstInputs =
          .ok (firstResponses, first) →
        run access (x86AtaInit image) secondInputs =
            .ok (secondResponses, second) →
          first.pCurrDev = .master → second.pCurrDev = .master →
            val &&& bitDeviceControlSrst ≠ 0 →
              ResetForgets first second val := by
  intro always
  obtain ⟨_, _, called, -⟩ :=
    always [] [] [] [] [] (x86AtaInit []) (x86AtaInit []) 0x04 rfl rfl
      rfl rfl (by decide) HostCalls.full
  have stopped :
      access (x86AtaInit [])
          (HostCalls.full, .outb portWDeviceControl 0x04) =
        .error .fault := rfl
  rw [stopped] at called
  cases called

end Kvmulate.Ata
