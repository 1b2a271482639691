import Kvmulate.Devices.InterruptLines
import Kvmulate.Devices.Transfers
import Kvmulate.Floppy.Handshake
import Kvmulate.Floppy.ReadData

/-!
# Reading the floppy disk through the machine

A driver that resets the floppy controller and the DMA controller, programs
channel 2 and issues READ DATA finds the sectors in the RAM, from every
reachable state and whatever else the machine does in between.
-/

/-! ## What every command keeps -/

namespace Kvmulate.Floppy

open DeviceLib

/-- The image in the drive, and the parts of the results that nothing
changes. -/
structure Drive (data : List Byte) (fdc : Fdc) : Prop where
  image : ∃ file, fdc.image = some file ∧ file.data = data
  st : fdc.st = Vector.replicate 3 0
  sect : fdc.pos.sect = 1

section Keeps

variable {data : List Byte} {host : HostCalls} {fdc next : Fdc}
variable {sys after : FloppySystem} {port : Uint16} {val : Uint8}

theorem Drive.of_same (drive : Drive data fdc)
    (image : next.image = fdc.image) (st : next.st = fdc.st)
    (sect : next.pos.sect = fdc.pos.sect) : Drive data next where
  image := by
    rw [image]
    exact drive.image
  st := st.trans drive.st
  sect := sect.trans drive.sect

theorem drive_readImage {lba : Uint32} {sectors : Uint8}
    (drive : Drive data fdc)
    (done : readImage host fdc lba sectors = .ok next) :
    Drive data next := by
  obtain ⟨file, image, held⟩ := drive.image
  unfold readImage at done
  rw [image] at done
  obtain ⟨buffer, -, built⟩ := Outcome.bind_eq_ok_iff.mp done
  cases built
  exact ⟨⟨_, rfl, (HostFile.seek_data host file _).trans held⟩, drive.st,
    drive.sect⟩

theorem drive_readData (drive : Drive data sys.fdc)
    (done : readData host sys = .ok after) : Drive data after.fdc := by
  obtain ⟨_, -, done⟩ := Outcome.bind_eq_ok_iff.mp done
  obtain ⟨filled, wasFilled, done⟩ := Outcome.bind_eq_ok_iff.mp done
  obtain ⟨lowMem, -, done⟩ := Outcome.bind_eq_ok_iff.mp done
  cases done
  refine Drive.of_same (drive_readImage ?_ wasFilled) rfl rfl rfl
  exact drive.of_same rfl rfl rfl

theorem drive_doExecuteCommand (drive : Drive data sys.fdc)
    (done : doExecuteCommand host sys = .ok after) :
    Drive data after.fdc := by
  simp only [doExecuteCommand] at done
  rcases Outcome.of_ite_eq_ok done with ⟨-, done⟩ | ⟨-, done⟩
  · refine drive_readData ?_ done
    exact drive
  rcases Outcome.of_ite_eq_ok done with ⟨-, done⟩ | ⟨-, done⟩
  · cases done
    exact drive.of_same rfl rfl rfl
  rcases Outcome.of_ite_eq_ok done with ⟨-, done⟩ | ⟨-, done⟩
  · cases done
    exact drive.of_same rfl rfl rfl
  rcases Outcome.of_ite_eq_ok done with ⟨-, done⟩ | ⟨-, done⟩
  · cases done
    exact drive.of_same rfl rfl rfl
  rcases Outcome.of_ite_eq_ok done with ⟨-, done⟩ | ⟨-, done⟩
  · cases done
    exact drive.of_same rfl rfl rfl
  · cases done
    exact drive

theorem drive_beginCommand (drive : Drive data fdc)
    (done : beginCommand fdc val = .ok next) : Drive data next := by
  unfold beginCommand at done
  rcases Outcome.of_ite_eq_ok done with ⟨-, done⟩ | ⟨-, done⟩
  · obtain ⟨fifolen, -, built⟩ := Outcome.bind_eq_ok_iff.mp done
    cases built
    exact drive.of_same rfl rfl rfl
  · cases done
    exact drive

theorem drive_writeFifo (drive : Drive data sys.fdc)
    (done : writeFifo host sys val = .ok after) : Drive data after.fdc := by
  unfold writeFifo at done
  obtain ⟨begun, began, done⟩ := Outcome.bind_eq_ok_iff.mp done
  obtain ⟨fifo, -, done⟩ := Outcome.bind_eq_ok_iff.mp done
  have kept := drive_beginCommand drive began
  rcases Outcome.of_ite_eq_ok done with ⟨-, done⟩ | ⟨-, done⟩
  · exact drive_doExecuteCommand (kept.of_same rfl rfl rfl) done
  · cases done
    exact kept.of_same rfl rfl rfl

theorem drive_writeDor (drive : Drive data fdc) (val : Uint8) :
    Drive data (writeDor fdc val) := by
  unfold writeDor
  by_cases reset : val &&& dorNReset = 0
  · rw [if_pos reset]
    exact drive.of_same rfl rfl rfl
  · rw [if_neg reset]
    exact drive.of_same rfl rfl rfl

theorem drive_floppyOutb (drive : Drive data sys.fdc)
    (done : floppyOutb host sys port val = .ok after) :
    Drive data after.fdc := by
  unfold floppyOutb at done
  rcases Outcome.of_ite_eq_ok done with ⟨-, done⟩ | ⟨-, done⟩
  · cases done
    exact drive_writeDor drive val
  rcases Outcome.of_ite_eq_ok done with ⟨-, done⟩ | ⟨-, done⟩
  · exact drive_writeFifo drive done
  rcases Outcome.of_ite_eq_ok done with ⟨-, done⟩ | ⟨-, done⟩
  · cases done
    exact drive.of_same rfl rfl rfl
  · cases done

theorem drive_floppyInb (drive : Drive data fdc)
    (done : floppyInb fdc port = .ok (val, next)) : Drive data next := by
  unfold floppyInb at done
  rcases Outcome.of_ite_eq_ok done with ⟨-, done⟩ | ⟨-, done⟩
  · cases done
    exact drive
  rcases Outcome.of_ite_eq_ok done with ⟨-, done⟩ | ⟨-, done⟩
  · cases done
    exact drive
  rcases Outcome.of_ite_eq_ok done with ⟨-, done⟩ | ⟨-, done⟩
  · obtain ⟨_, -, done⟩ := Outcome.bind_eq_ok_iff.mp done
    rcases Outcome.of_ite_eq_ok done with ⟨-, done⟩ | ⟨-, done⟩
    · cases done
      exact drive.of_same rfl rfl rfl
    · cases done
      exact drive.of_same rfl rfl rfl
  · cases done

/-- A reset leaves the controller idle, whatever it was doing. -/
theorem idle_writeDor (fdc : Fdc) :
    PhaseMatches (writeDor (writeDor fdc 0) 0x1C) .idle := by
  have msr : (writeDor (writeDor fdc 0) 0x1C).msr = msrRqm := rfl
  refine ⟨rfl, ?_⟩
  unfold Flag
  rw [msr]
  decide

end Keeps

end Kvmulate.Floppy

/-! ## The driver -/

namespace Kvmulate.Devices

open DeviceLib Kvmulate.Io Kvmulate.System

/-! ### Accesses to one of the controllers -/

def transfersWindows : List (Uint16 × Uint16) :=
  [(0x00, ~~~0x0F), (0xC0, ~~~0x1F), (0x80, ~~~0x0F), (0x3F0, 0xFFF8)]

/-- The position of the handler that serves a port of the device. -/
def transfersServedBy (port : Uint16) : Option Nat :=
  transfersWindows.findIdx? fun window => port &&& window.2 = window.1

/-- The access as the floppy controller sees it. -/
def floppyAccess : Floppy.FloppyStep → IoAccess
  | .outb port val => .outb port val
  | .inb port => .inb port
  | .program _ => .inb Floppy.regMainStatus

def OnFloppy : Floppy.FloppyStep → Prop
  | .outb port _ => transfersServedBy port = some 3
  | .inb port => transfersServedBy port = some 3
  | .program _ => False

/-- The floppy controller as its own module has it. -/
structure Agrees (sys : Floppy.FloppySystem) (state : Transfers) :
    Prop where
  fdc : sys.fdc = state.fdc
  dma : sys.dma = state.dma.dma
  lowMem : sys.lowMem = state.lowMem

section Accesses

variable {host : Host} {port : Uint16} {access : IoAccess}
variable {state : Transfers} {sys after : Floppy.FloppySystem}
variable {val : Uint8} {step : Floppy.FloppyStep} {answer : Option Uint8}

theorem transfersCall_onPart {τ : Type} {part : Part Transfers τ}
    {handler : IoHandler τ} {index : Nat}
    (served : transfersServedBy access.port = some index)
    (placed : (transfersHandlers host)[index]? =
      some (handler.onPart part)) :
    transfersDevice.call state (.inl (host, access)) = (do
      let (data, after) ← handler.serve (part.get state) access
      pure (.data data, part.set after state)) := by
  have found : lookupHandler (tableOf (transfersHandlers host))
      access.port = some (handler.onPart part) := by
    have windows : (transfersHandlers host).map
        (fun handler => (handler.base, handler.mask)) =
          transfersWindows := rfl
    unfold transfersServedBy at served
    rw [← windows, List.findIdx?_map] at served
    rw [lookupHandler_tableOf (transfers_room host),
      List.find?_eq_bind_findIdx?_getElem?]
    exact (congrArg
      (Option.bind · fun index => (transfersHandlers host)[index]?)
      served).trans placed
  have called : ioAccess (tableOf (transfersDevice.handlers host)) state
      access = (handler.onPart part).serve state access :=
    ioAccess_of_lookup found
  rw [TableDevice.call_port, called, serve_onPart]
  simp only [bind_assoc, pure_bind]

/-- One access to the floppy controller. -/
theorem transfersCall_floppy (on : OnFloppy step)
    (agrees : Agrees sys state)
    (called : Floppy.floppyStep sys (HostCalls.full, step) =
      .ok (answer, after)) :
    ∃ last,
      transfersDevice.call state
          (.inl (Host.atNoon, floppyAccess step)) =
        .ok (byteData answer, last) ∧
      Agrees after last ∧ last.dma = state.dma := by
  cases step with
  | outb port val =>
      have kept : after.dma = sys.dma := Floppy.dma_floppyStep called
      obtain ⟨written, done, built⟩ := Outcome.bind_eq_ok_iff.mp called
      cases built
      obtain ⟨last, again, ends⟩ :=
        @Floppy.floppyOutb_endsLike HostCalls.full sys
          (floppyOfTransfers.get state) after port val agrees.fdc.symm
          agrees.dma.symm done
      refine ⟨floppyOfTransfers.set last state, ?_,
        ⟨ends.fdc.symm, kept.trans agrees.dma,
          (ends.lowMem agrees.lowMem.symm).symm⟩, rfl⟩
      refine (@transfersCall_onPart Host.atNoon (.outb port val) state _
        floppyOfTransfers (floppyHandler Host.atNoon) 3 on rfl).trans ?_
      simp only [IoHandler.serve, floppyHandler, callOut,
        BitVec.sub_add_cancel, bind_assoc, pure_bind]
      change (Floppy.floppyOutb HostCalls.full _ port val >>= _) = _
      rw [again]
      rfl
  | inb port =>
      obtain ⟨⟨val, fdc⟩, done, built⟩ := Outcome.bind_eq_ok_iff.mp called
      cases built
      refine ⟨floppyOfTransfers.set
        { floppyOfTransfers.get state with fdc := fdc } state, ?_,
        ⟨rfl, agrees.dma, agrees.lowMem⟩, rfl⟩
      refine (@transfersCall_onPart Host.atNoon (.inb port) state _
        floppyOfTransfers (floppyHandler Host.atNoon) 3 on rfl).trans ?_
      simp only [IoHandler.serve, floppyHandler, callIn,
        BitVec.sub_add_cancel, bind_assoc, pure_bind]
      have read : Floppy.floppyInb (floppyOfTransfers.get state).fdc port =
          .ok (val, fdc) := by
        rw [← done, agrees.fdc]
        rfl
      rw [read]
      rfl
  | program => cases on

/-- A driver of the floppy controller alone. -/
theorem run_floppySteps {steps : List Floppy.FloppyStep}
    {answers : List (Option Uint8)} (on : ∀ step ∈ steps, OnFloppy step)
    (agrees : Agrees sys state)
    (ran : run Floppy.floppyStep sys
      (steps.map fun step => (HostCalls.full, step)) =
        .ok (answers, after)) :
    ∃ last,
      run transfersDevice.call state
          (driverInputs (steps.map floppyAccess)) =
        .ok (answers.map byteData, last) ∧
      Agrees after last ∧ last.dma = state.dma := by
  induction steps generalizing sys state answers with
  | nil =>
      cases ran
      exact ⟨state, rfl, agrees, rfl⟩
  | cons step rest inductionHypothesis =>
      obtain ⟨answer, next, others, called, ranRest, rfl⟩ :=
        run_cons_eq_ok_iff.mp ran
      obtain ⟨middle, again, still, dma⟩ :=
        transfersCall_floppy (on step List.mem_cons_self) agrees called
      obtain ⟨last, ranMiddle, ended, dmaRest⟩ :=
        inductionHypothesis
          (fun other mem => on other (List.mem_cons_of_mem _ mem)) still
          ranRest
      exact ⟨last, run_cons again ranMiddle, ended, dmaRest.trans dma⟩

/-- The place of a handler of the DMA controllers. -/
def slotOf : I8237.Handler → Nat
  | .ctrl0 => 0
  | .ctrl1 => 1
  | .page => 2

/-- A port of the DMA controllers, for a write. -/
def OnDma (port : Uint16) : Prop :=
  ∃ hdl, transfersServedBy port = some (slotOf hdl) ∧
    I8237.handlerAt port = some hdl

theorem transfersCall_dma (on : OnDma port) :
    transfersDevice.call state (.inl (host, .outb port val)) = (do
      let (answer, dma) ← I8237.dmaStep state.dma (.outb port val)
      pure (byteData answer, { state with dma := dma })) := by
  obtain ⟨hdl, served, found⟩ := on
  have placed : (transfersHandlers host)[slotOf hdl]? =
      some (hdl.entries.onPart dmaOfTransfers) := by
    cases hdl with
    | ctrl0 => rfl
    | ctrl1 => rfl
    | page => rfl
  rw [@transfersCall_onPart host (.outb port val) state _ dmaOfTransfers
    hdl.entries (slotOf hdl) served placed, I8237.dmaStep_outb_eq found]
  simp only [IoHandler.serve, I8237.entries_base, bind_assoc, pure_bind]
  rfl

/-- A driver of the DMA controllers alone. -/
theorem run_dmaWrites {writes : List (Uint16 × Uint8)}
    {answers : List (Option Uint8)} {dma : I8237.Controllers}
    (on : ∀ write ∈ writes, OnDma write.1)
    (ran : run I8237.dmaStep state.dma
      (writes.map fun write => .outb write.1 write.2) =
        .ok (answers, dma)) :
    run transfersDevice.call state
        (driverInputs
          (writes.map fun write => .outb write.1 write.2)) =
      .ok (answers.map byteData, { state with dma := dma }) := by
  induction writes generalizing state answers with
  | nil =>
      cases ran
      rfl
  | cons write rest inductionHypothesis =>
      obtain ⟨answer, next, others, called, ranRest, rfl⟩ :=
        run_cons_eq_ok_iff.mp ran
      have first := @transfersCall_dma Host.atNoon write.1 state write.2
        (on write List.mem_cons_self)
      rw [called] at first
      exact run_cons first (@inductionHypothesis
        { state with dma := next } others
        (fun other mem => on other (List.mem_cons_of_mem _ mem)) ranRest)

end Accesses

/-! ### The program -/

/-- Reset the floppy controller and turn the motor on. -/
def resetSteps : List Floppy.FloppyStep :=
  [.outb 0x3F2 0x00, .outb 0x3F2 0x1C]

/-- Clear the first DMA controller and program its channel 2. -/
def dmaWrites (page low high countLow countHigh : Uint8) :
    List (Uint16 × Uint8) :=
  [(0x0D, 0), (0x81, page), (0x04, low), (0x04, high), (0x05, countLow),
    (0x05, countHigh)]

def fifoSteps (bytes : List Uint8) : List Floppy.FloppyStep :=
  bytes.map (.outb 0x3F5)

/-- The addresses of the window that the DMA controller is programmed for. -/
def windowStart (page low high : Uint8) : Nat :=
  65536 * page.toNat + 256 * high.toNat + low.toNat

def windowLength (countLow countHigh : Uint8) : Nat :=
  256 * countHigh.toNat + countLow.toNat + 1

/-- What the driver does before the last byte of the command. -/
def floppyProgram (page low high countLow countHigh : Uint8)
    (bytes : List Uint8) : List IoAccess :=
  resetSteps.map floppyAccess ++
    ((dmaWrites page low high countLow countHigh).map
        fun write => .outb write.1 write.2) ++
      (fifoSteps bytes).map floppyAccess

section Program

variable {state : Transfers} {page low high countLow countHigh : Uint8}

theorem toNat_shiftLeft_or (first second : Nat) {shift : Nat}
    (small : second < 2 ^ shift) :
    first <<< shift ||| second = 2 ^ shift * first + second := by
  rw [← Nat.shiftLeft_add_eq_or_of_lt small, Nat.shiftLeft_eq,
    Nat.mul_comm]

theorem toNat_byte (byte : Uint8) :
    (byte.setWidth 32 : Uint32).toNat = byte.toNat := by
  have small := byte.isLt
  rw [BitVec.toNat_setWidth]
  omega

theorem toNat_widened (byte : Uint8) {shift : Nat} (fits : shift ≤ 24) :
    (byte.setWidth 32 <<< shift : Uint32).toNat =
      byte.toNat <<< shift := by
  have small := byte.isLt
  have power : 2 ^ shift ≤ 2 ^ 24 := Nat.pow_le_pow_right Nat.two_pos fits
  have below : byte.toNat * 2 ^ shift < 2 ^ 32 :=
    Nat.lt_of_lt_of_le
      (Nat.mul_lt_mul_of_pos_right small (Nat.two_pow_pos shift))
      (Nat.mul_le_mul_left 256 power)
  rw [BitVec.toNat_shiftLeft, toNat_byte, Nat.shiftLeft_eq,
    Nat.mod_eq_of_lt below]

theorem toNat_destination (page low high : Uint8) :
    ((page.setWidth 32 <<< 16) ||| (high.setWidth 32 <<< 8) |||
        low.setWidth 32 : Uint32).toNat =
      windowStart page low high := by
  have lowSmall := low.isLt
  have highSmall := high.isLt
  have middle : high.toNat <<< 8 < 2 ^ 16 := by
    rw [Nat.shiftLeft_eq]
    omega
  have parts : 2 ^ 16 * page.toNat + high.toNat <<< 8 =
      (2 ^ 8 * page.toNat + high.toNat) <<< 8 := by
    rw [Nat.shiftLeft_eq, Nat.shiftLeft_eq]
    ring
  rw [BitVec.toNat_or, BitVec.toNat_or, toNat_widened page (by decide),
    toNat_widened high (by decide), toNat_byte, toNat_shiftLeft_or _ _ middle,
    parts, toNat_shiftLeft_or _ _ lowSmall]
  unfold windowStart
  ring

theorem toNat_programmedCount (countLow countHigh : Uint8) :
    ((countHigh.setWidth 32 <<< 8) ||| countLow.setWidth 32 :
        Uint32).toNat + 1 =
      windowLength countLow countHigh := by
  rw [BitVec.toNat_or, toNat_widened countHigh (by decide), toNat_byte,
    toNat_shiftLeft_or _ _ countLow.isLt]
  rfl

theorem driverInputs_append (first second : List IoAccess) :
    driverInputs (first ++ second) =
      driverInputs first ++ driverInputs second :=
  List.map_append

theorem onFloppy_resetSteps : ∀ step ∈ resetSteps, OnFloppy step := by
  intro step mem
  simp only [resetSteps, List.mem_cons, List.not_mem_nil, or_false] at mem
  rcases mem with rfl | rfl
  · exact (by decide : transfersServedBy 0x3F2 = some 3)
  · exact (by decide : transfersServedBy 0x3F2 = some 3)

theorem onFloppy_fifoSteps (bytes : List Uint8) :
    ∀ step ∈ fifoSteps bytes, OnFloppy step := by
  intro step mem
  obtain ⟨val, -, rfl⟩ := List.mem_map.mp mem
  exact (by decide : transfersServedBy 0x3F5 = some 3)

theorem onDma_dmaWrites :
    ∀ write ∈ dmaWrites page low high countLow countHigh,
      OnDma write.1 := by
  intro write mem
  simp only [dmaWrites, List.mem_cons, List.not_mem_nil, or_false] at mem
  rcases mem with rfl | rfl | rfl | rfl | rfl | rfl
  · exact (⟨.ctrl0, by decide, by decide⟩ : OnDma 0x0D)
  · exact (⟨.page, by decide, by decide⟩ : OnDma 0x81)
  · exact (⟨.ctrl0, by decide, by decide⟩ : OnDma 0x04)
  · exact (⟨.ctrl0, by decide, by decide⟩ : OnDma 0x04)
  · exact (⟨.ctrl0, by decide, by decide⟩ : OnDma 0x05)
  · exact (⟨.ctrl0, by decide, by decide⟩ : OnDma 0x05)

/-- The controller that is cleared first takes every register from its low
byte on. -/
theorem run_programDma (dma : I8237.Controllers)
    (page low high countLow countHigh : Uint8) :
    ∃ after,
      run I8237.dmaStep dma
          ((dmaWrites page low high countLow countHigh).map
            fun write => .outb write.1 write.2) =
        .ok (List.replicate 6 none, after) ∧
      after.dma.destOff.toNat = windowStart page low high ∧
      after.dma.count.toNat + 1 = windowLength countLow countHigh := by
  let clear := dma.setCtl 0 I8237.Ctl.zero
  have cleared : I8237.dmaStep dma (.outb 0x0D 0) = .ok (none, clear) :=
    rfl
  have atLow (register : Nat) (inside : register < 7) :
      I8237.AtLow clear 0 register := by
    refine ⟨0, ?_, BitVec.zero_and⟩
    rw [I8237.setCtl_same]
    change (Vector.replicate 7 (0 : Uint32)).toList[register]? = _
    rw [Vector.toList_replicate, List.getElem?_replicate, if_pos inside]
  obtain ⟨after, ran, destOff, count⟩ :=
    I8237.program_channel2 (atLow 4 (by decide)) (atLow 5 (by decide))
      page low high countLow countHigh
  refine ⟨after, run_cons cleared ran, ?_, ?_⟩
  · rw [destOff]
    exact toNat_destination page low high
  · rw [count]
    exact toNat_programmedCount countLow countHigh

/-- The state in which the last byte of the command is awaited. -/
structure Prepared (before waited : Transfers)
    (page low high countLow countHigh first : Uint8)
    (params : List Uint8) : Prop where
  gathered : Floppy.Gathered waited.fdc .readData first params
  drive : Floppy.SameDrive
    (Floppy.writeDor (Floppy.writeDor before.fdc 0) 0x1C) waited.fdc
  destination : waited.dma.dma.destOff.toNat = windowStart page low high
  count : waited.dma.dma.count.toNat + 1 = windowLength countLow countHigh

/-- All but the last byte of the program, from any state. -/
theorem run_floppyProgram (state : Transfers)
    {first unit c h s size k gap : Uint8}
    (selects : Floppy.commandOf first = some .readData) :
    ∃ waited,
      run transfersDevice.call state
          (driverInputs
            (floppyProgram page low high countLow countHigh
              [first, unit, c, h, s, size, k, gap])) =
        .ok (List.replicate 16 (.data .none), waited) ∧
      Prepared state waited page low high countLow countHigh first
        [unit, c, h, s, size, k, gap] := by
  let fdc := Floppy.writeDor (Floppy.writeDor state.fdc 0) 0x1C
  let reset : Transfers := { state with fdc := fdc }
  have resets : run Floppy.floppyStep (floppyOfTransfers.get state)
      (resetSteps.map fun step => (HostCalls.full, step)) =
        .ok ([none, none],
          { floppyOfTransfers.get state with fdc := fdc }) := rfl
  obtain ⟨begun, ranReset, agrees, dma⟩ :=
    run_floppySteps onFloppy_resetSteps ⟨rfl, rfl, rfl⟩ resets
  obtain ⟨controllers, programmed, destination, count⟩ :=
    run_programDma begun.dma page low high countLow countHigh
  have ranDma := run_dmaWrites onDma_dmaWrites programmed
  let ready : Transfers := { begun with dma := controllers }
  have idle : Floppy.PhaseMatches (floppyOfTransfers.get ready).fdc
      .idle := by
    have same : begun.fdc = fdc := agrees.fdc.symm
    change Floppy.PhaseMatches begun.fdc .idle
    rw [same]
    exact Floppy.idle_writeDor state.fdc
  obtain ⟨gathered, ranFront, waiting⟩ :=
    @Floppy.run_front (floppyOfTransfers.get ready) first unit c h s size k
      gap idle selects
  obtain ⟨waited, ranFifo, ended, still⟩ :=
    @run_floppySteps ready (floppyOfTransfers.get ready) gathered
      (fifoSteps [first, unit, c, h, s, size, k, gap])
      (List.replicate 8 none) (onFloppy_fifoSteps _) ⟨rfl, rfl, rfl⟩
      ranFront
  refine ⟨waited, ?_, ?_, ?_, ?_, ?_⟩
  · unfold floppyProgram
    rw [driverInputs_append, driverInputs_append]
    exact run_append (run_append ranReset ranDma) ranFifo
  · rw [← ended.fdc]
    exact waiting.gathered
  · have same : begun.fdc = fdc := agrees.fdc.symm
    have drive := waiting.drive
    change Floppy.SameDrive begun.fdc gathered.fdc at drive
    rw [same, ended.fdc] at drive
    exact drive
  · rw [still]
    exact destination
  · rw [still]
    exact count

end Program

/-! ## The whole read -/

/-- A read of a disk of this length that a driver may ask for. -/
structure FloppyRead (length : Nat) where
  page : Uint8
  low : Uint8
  high : Uint8
  countLow : Uint8
  countHigh : Uint8
  first : Uint8
  unit : Uint8
  c : Uint8
  h : Uint8
  s : Uint8
  size : Uint8
  k : Uint8
  gap : Uint8
  len : Uint8
  selects : Floppy.commandOf first = some .readData
  sector : 1 ≤ s.toNat
  few : k.toNat ≤ 128
  fits : windowLength countLow countHigh ≤ 512 * k.toNat
  -- The log line of the transfer loads five bytes of the window.
  inRam : windowStart page low high +
    max (windowLength countLow countHigh) 5 ≤ 0xA0000
  held : 512 * (Floppy.blockOf c h s + k.toNat) ≤ length

namespace FloppyRead

variable {length : Nat} (read : FloppyRead length)

/-- The accesses before the last byte of the command. -/
def program : List IoAccess :=
  floppyProgram read.page read.low read.high read.countLow read.countHigh
    [read.first, read.unit, read.c, read.h, read.s, read.size, read.k,
      read.gap]

def start : Nat := windowStart read.page read.low read.high

def count : Nat := windowLength read.countLow read.countHigh

/-- The bytes of the image that the guest asks for. -/
def bytes (data : List Byte) : List Byte :=
  Floppy.imageBytes data read.c read.h read.s read.count

/-- The bytes that the controller answers with. -/
def results : List Uint8 := [0, 0, 0, read.c, read.h, 1, 2]

end FloppyRead

section Reads

variable {around : Surroundings} {beginning machine next : Machine}
variable {before front : List DeviceStep} {step : DeviceStep}
variable {earlier : List Vga.VideoResponse} {host : Host}
variable {response : Vga.VideoResponse} {data : List Byte}

theorem drive_start (start : Machine.start around = .ok machine)
    (image : around.floppyImage = some data) :
    Floppy.Drive data machine.fdc := by
  obtain ⟨video, -, built⟩ := Outcome.bind_eq_ok_iff.mp start
  cases built
  refine ⟨⟨⟨data, 0⟩, ?_, rfl⟩, rfl, rfl⟩
  change around.floppyImage.map _ = _
  rw [image]
  rfl

theorem drive_deviceStep (drive : Floppy.Drive data machine.fdc)
    (stepped : deviceStep machine step = .ok (response, next)) :
    Floppy.Drive data next.fdc := by
  cases taken : floppyInput step with
  | none =>
      rw [fdc_of_apart taken stepped]
      exact drive
  | some own =>
      cases step with
      | port host access =>
          obtain ⟨answer, accessed, -⟩ :=
            deviceStep_port_eq_ok_iff.mp stepped
          cases access with
          | outb port val =>
              have served := (Option.ite_none_right_eq_some.mp taken).1
              obtain ⟨after, called, rfl⟩ :=
                floppyOutb_of_port served accessed
              exact Floppy.drive_floppyOutb drive called
          | inb port =>
              have served := (Option.ite_none_right_eq_some.mp taken).1
              obtain ⟨val, after, called, rfl⟩ :=
                floppyInb_of_port served accessed
              exact Floppy.drive_floppyInb drive called
          | outw => cases taken
          | outl => cases taken
          | inw => cases taken
          | inl => cases taken
      | key => cases taken
      | write => cases taken
      | read => cases taken
      | ram => cases taken

/-- The last byte brings the sectors into the RAM as it is then. -/
theorem lastByte_port {read : FloppyRead data.length} {state : Transfers}
    (drive : Floppy.Drive data state.fdc)
    (prepared : Prepared state (transfersPart.get machine) read.page
      read.low read.high read.countLow read.countHigh read.first
      [read.unit, read.c, read.h, read.s, read.size, read.k, read.gap])
    (full : host.calls = HostCalls.full) :
    ∃ (final : Machine) (filled : Floppy.Fdc),
      deviceStep machine (.port host (.outb 0x3F5 read.len)) =
        .ok (.data .none, final) ∧
      machine.lowMem.Stored final.lowMem read.start (read.bytes data) ∧
      final.fdc = filled.answerPosition ∧
        filled.st = Vector.replicate 3 0 ∧
          filled.pos = ⟨read.c, read.h, 1⟩ := by
  have begun : Floppy.Drive data
      (Floppy.writeDor (Floppy.writeDor state.fdc 0) 0x1C) :=
    Floppy.drive_writeDor (Floppy.drive_writeDor drive _) _
  obtain ⟨file, image, rfl⟩ := begun.image
  let sys : Floppy.FloppySystem :=
    { floppyPart.get machine with
      fdc := Floppy.writeDor (Floppy.writeDor state.fdc 0) 0x1C }
  have waiting : Floppy.Waiting sys (floppyPart.get machine) .readData
      read.first
      [read.unit, read.c, read.h, read.s, read.size, read.k, read.gap] :=
    ⟨prepared.gathered, prepared.drive, rfl, rfl⟩
  have programmed : sys.dma.destOff.toNat = read.start ∧
      sys.dma.count.toNat + 1 = read.count :=
    ⟨prepared.destination, prepared.count⟩
  have inside : InLowMem sys.dma.destOff sys.dma.touched := by
    rw [InLowMem, Dma.touched, programmed.1, programmed.2]
    exact Or.inl read.inRam
  obtain ⟨after, filled, ran, stored, shown, pos, st⟩ :=
    @Floppy.run_last sys file read.first read.unit read.c read.h read.s
      read.size read.k read.gap read.len read.start read.count
      (floppyPart.get machine) waiting image read.sector read.few
      programmed read.fits inside read.held
  obtain ⟨answer, called, -⟩ := run_one_eq_ok_iff.mp ran
  obtain ⟨written, done, built⟩ := Outcome.bind_eq_ok_iff.mp called
  cases built
  have accessed : deviceStep machine (.port host (.outb 0x3F5 read.len)) =
      .ok (.data .none, floppyPart.set after machine) := by
    have served : servedBy 0x3F5 = some 19 := by decide
    rw [deviceStep_port,
      @portAccess_floppy machine host (.outb 0x3F5 read.len) served]
    simp only [IoHandler.serve, floppyHandler, callOut,
      BitVec.sub_add_cancel, bind_assoc, pure_bind, full]
    change (Floppy.floppyOutb HostCalls.full _ 0x3F5 read.len >>= _) = _
    rw [show Floppy.floppyOutb HostCalls.full (floppyPart.get machine) 0x3F5
      read.len = .ok after from done]
    rfl
  refine ⟨_, filled, accessed, stored, shown, ?_, ?_⟩
  · rw [st]
    exact begun.st
  · rw [pos]
    exact congrArg (Floppy.FdcPos.mk read.c read.h) begun.sect

/-- The results are read byte by byte. -/
theorem results_of_reads {read : FloppyRead data.length}
    {filled : Floppy.Fdc} {later : List DeviceStep}
    (shown : machine.fdc = filled.answerPosition)
    (st : filled.st = Vector.replicate 3 0)
    (pos : filled.pos = ⟨read.c, read.h, 1⟩)
    (succeed : ∀ step ∈ later, CallsSucceed step)
    (others : ∀ device : Device, device ≠ .transfers →
      device.Serves machine later)
    (asks : later.filterMap transferAccess =
      List.replicate 7 (.inb 0x3F5)) :
    ∃ answered last,
      run deviceStep machine later = .ok (answered, last) ∧
        transferResponses later answered =
          read.results.map fun val => .data (.byte val) := by
  have results : machine.fdc.fifo.toList.take 7 = read.results := by
    rw [shown, Floppy.answerPosition_results, st, pos]
    rfl
  have index : machine.fdc.fifondx = ((0 : Nat) : Int) := by
    rw [shown]
    rfl
  have fifolen : machine.fdc.fifolen =
      ((0 : Nat) : Int) + read.results.length := by
    rw [shown]
    rfl
  obtain ⟨after, ran⟩ :=
    @Floppy.run_reads (floppyPart.get machine) read.results 0 index fifolen
      results
  obtain ⟨last, ranDevice, -, -⟩ :=
    @run_floppySteps (transfersPart.get machine) (floppyPart.get machine)
      after (List.replicate 7 (.inb 0x3F5)) (read.results.map some)
      (fun step mem => by
        rw [List.eq_of_mem_replicate mem]
        exact (by decide : transfersServedBy 0x3F5 = some 3))
      ⟨rfl, rfl, rfl⟩ ran
  have program : (List.replicate 7 (Floppy.FloppyStep.inb 0x3F5)).map
      floppyAccess = later.filterMap transferAccess := by
    rw [asks]
    rfl
  rw [program] at ranDevice
  obtain ⟨answered, final, ranMachine, -, told⟩ :=
    exists_run_of_driver succeed others rfl ranDevice
  refine ⟨answered, final, ranMachine, ?_⟩
  rw [told, List.map_map]
  rfl

/-- A driver reads sectors of the floppy disk, from every reachable state of
the machine, even in the middle of another command, and whatever the machine
does in between: the program is served unless a step for another device stops
the process, its last byte brings the sectors to the programmed window of the
RAM as the guest sees it and leaves the rest of it alone, IRQ 6 is raised, and
the results can be read. -/
theorem floppy_reads_sectors {kvm : Kvm} {seabios vgabios : Rom}
    {blocks : Fin 4 → Uint64} {uNumMegsRAM : Uint32} {guest : Sys}
    (created : Created kvm seabios vgabios blocks uNumMegsRAM guest)
    (memory : ByteMemory 64) (read : FloppyRead data.length)
    (start : Machine.start around = .ok beginning)
    (reached : run deviceStep beginning before = .ok (earlier, machine))
    (image : around.floppyImage = some data)
    (succeed : ∀ step ∈ front, CallsSucceed step)
    (others : ∀ device : Device, device ≠ .transfers →
      device.Serves machine front)
    (program : front.filterMap transferAccess = read.program)
    (full : host.calls = HostCalls.full) :
    ∃ delivered ready final,
      run deviceStep machine front = .ok (delivered, ready) ∧
      deviceStep ready (.port host (.outb 0x3F5 read.len)) =
        .ok (.data .none, final) ∧
      guest.Delivers memory ready.lowMem final.lowMem read.start
        (read.bytes data) ∧
      final.level .irq6 = true ∧
      ∀ later : List DeviceStep,
        (∀ step ∈ later, CallsSucceed step) →
        (∀ device : Device, device ≠ .transfers →
          device.Serves final later) →
        later.filterMap transferAccess = List.replicate 7 (.inb 0x3F5) →
          ∃ answered last,
            run deviceStep final later = .ok (answered, last) ∧
              transferResponses later answered =
                read.results.map fun val => .data (.byte val) := by
  have drive : Floppy.Drive data machine.fdc :=
    @run_invariant _ _ _ deviceStep
      (fun machine => Floppy.Drive data machine.fdc)
      (fun kept stepped => drive_deviceStep kept stepped) _ _ _ _
      (drive_start start image) reached
  obtain ⟨waited, ran, prepared⟩ :=
    @run_floppyProgram read.page read.low read.high read.countLow
      read.countHigh (transfersPart.get machine) read.first read.unit read.c
      read.h read.s read.size read.k read.gap read.selects
  have asked : run transfersDevice.call (transfersPart.get machine)
      (driverInputs (front.filterMap transferAccess)) =
        .ok (List.replicate 16 (.data .none), waited) := by
    rw [program]
    exact ran
  obtain ⟨delivered, ready, ranFront, registers, -⟩ :=
    exists_run_of_driver succeed others rfl asked
  obtain ⟨fdc, dma⟩ := Prod.mk.inj registers
  have awaited : Prepared (transfersPart.get machine)
      (transfersPart.get ready) read.page read.low read.high read.countLow
      read.countHigh read.first
      [read.unit, read.c, read.h, read.s, read.size, read.k, read.gap] := by
    refine ⟨?_, ?_, ?_, ?_⟩
    · rw [fdc]
      exact prepared.gathered
    · rw [fdc]
      exact prepared.drive
    · rw [dma]
      exact prepared.destination
    · rw [dma]
      exact prepared.count
  obtain ⟨final, filled, stepped, stored, shown, st, pos⟩ :=
    lastByte_port drive awaited full
  have length := Floppy.length_imageBytes_le data read.c read.h read.s
    read.count
  have inRam : read.start + (read.bytes data).length ≤ 0xA0000 :=
    Nat.le_trans (Nat.add_le_add_left (Nat.le_trans length
      (Nat.le_max_left _ _)) _) read.inRam
  refine ⟨delivered, ready, final, ranFront, stepped,
    created.delivers_of_stored stored (Floppy.shown_of_low inRam) memory,
    ?_, ?_⟩
  · change final.fdc.irq6 = true
    rw [shown]
    rfl
  · intro later succeedLater othersLater asks
    exact results_of_reads shown st pos succeedLater othersLater asks

theorem deviceOfStep_of_transfer (host : Host) {accesses : List IoAccess}
    (on : ∀ access ∈ accesses,
      deviceOf (servedBy access.port) = .transfers) :
    (accesses.map (DeviceStep.port host)).filterMap transferAccess =
      accesses := by
  rw [List.filterMap_map]
  refine (List.filterMap_congr fun access mem => ?_).trans
    List.filterMap_some
  exact if_pos (on access mem)

/-- A disk of one sector. -/
def oneFloppySector : List Byte := List.replicate 512 0xAB

theorem held_oneFloppySector :
    512 * (Floppy.blockOf 0 0 1 + (1 : Uint8).toNat) ≤ oneFloppySector.length :=
  Nat.le_of_eq List.length_replicate.symm

theorem commandOf_firstBytes : Floppy.commandOf 0x46 = some .readData := rfl

theorem sector_firstBytes : 1 ≤ (1 : Uint8).toNat := Nat.le_refl 1

theorem few_firstBytes : (1 : Uint8).toNat ≤ 128 :=
  Nat.le_of_ble_eq_true rfl

theorem windowLength_firstBytes :
    windowLength 0x0F 0x00 ≤ 512 * (1 : Uint8).toNat :=
  Nat.le_of_ble_eq_true rfl

theorem windowStart_firstBytes :
    windowStart 0 0x00 0x10 + max (windowLength 0x0F 0x00) 5 ≤ 0xA0000 :=
  Nat.le_of_ble_eq_true rfl

/-- Sixteen bytes of the sector, for the address 0x1000. -/
def firstBytes : FloppyRead oneFloppySector.length where
  page := 0
  low := 0x00
  high := 0x10
  countLow := 0x0F
  countHigh := 0x00
  first := 0x46
  unit := 0
  c := 0
  h := 0
  s := 1
  size := 2
  k := 1
  gap := 0x1B
  len := 0xFF
  selects := commandOf_firstBytes
  sector := sector_firstBytes
  few := few_firstBytes
  fits := windowLength_firstBytes
  inRam := windowStart_firstBytes
  held := held_oneFloppySector

/-- The first bytes of a disk of one sector, read while a key is pressed. -/
theorem floppy_reads_sectors_key :
    let around := { bare with floppyImage := some oneFloppySector }
    ∃ guest machine delivered ready final,
      Created checksOverlaps shortRom noRom mainBlocks mainMegs guest ∧
      Machine.start around = .ok machine ∧
      run deviceStep machine
          (.key 0x1E true ::
            firstBytes.program.map (.port Host.atNoon)) =
        .ok (delivered, ready) ∧
      deviceStep ready (.port Host.atNoon (.outb 0x3F5 0xFF)) =
        .ok (.data .none, final) ∧
      guest.Reads (fun _ => 0) final.lowMem 0x1000 0xAB ∧
      final.level .irq6 = true := by
  intro around
  obtain ⟨machine, start⟩ := @exists_start around (by
    intro image found
    cases found)
  have mine : ∀ access ∈ firstBytes.program,
      deviceOf (servedBy access.port) = .transfers := by
    decide
  have steps : ∀ step ∈ firstBytes.program.map (DeviceStep.port Host.atNoon),
      deviceOfStep step = .transfers := by
    intro step mem
    obtain ⟨access, among, rfl⟩ := List.mem_map.mp mem
    exact mine access among
  have succeed : ∀ step ∈ (.key 0x1E true ::
      firstBytes.program.map (DeviceStep.port Host.atNoon) : List DeviceStep),
        CallsSucceed step := by
    intro step mem
    rcases List.mem_cons.mp mem with rfl | access
    · exact trivial
    · obtain ⟨access, -, rfl⟩ := List.mem_map.mp access
      exact rfl
  have program : (.key 0x1E true ::
      firstBytes.program.map (DeviceStep.port Host.atNoon)
        : List DeviceStep).filterMap transferAccess = firstBytes.program :=
    deviceOfStep_of_transfer Host.atNoon mine
  have nothing : run deviceStep machine [] = .ok ([], machine) := rfl
  have full : Host.atNoon.calls = HostCalls.full := rfl
  obtain ⟨guest, created⟩ := exists_created
  obtain ⟨delivered, ready, final, ran, stepped, bytes, raised, -⟩ :=
    floppy_reads_sectors created (fun _ => 0) firstBytes start nothing rfl
      succeed (fun device apart => Device.serves_of_key steps apart) program
      full
  refine ⟨guest, machine, delivered, ready, final, created, start, ran,
    stepped, ?_, raised⟩
  rw [bytes, if_pos (by decide)]
  rfl

end Reads

end Kvmulate.Devices
