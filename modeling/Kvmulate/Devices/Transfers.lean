import Kvmulate.Devices.Product
import Kvmulate.Floppy.Simulation
import Kvmulate.Lib.Purge

/-!
# The floppy controller and its memory

What the RAM holds decides neither what the floppy controller and the DMA
controllers answer nor what becomes of their registers.
-/

/-! ## The controller and its memory -/

namespace Kvmulate.Floppy

open DeviceLib

/-- `last` has the registers of `after`, and its memory if the same memory was
there before. -/
structure EndsLike (sys other after last : FloppySystem) : Prop where
  fdc : last.fdc = after.fdc
  lowMem : other.lowMem = sys.lowMem → last.lowMem = after.lowMem

section Ram

variable {host : HostCalls} {sys other after : FloppySystem}
variable {port : Uint16} {val : Uint8}

theorem readData_endsLike (fdc : other.fdc = sys.fdc)
    (dma : other.dma = sys.dma) (done : readData host sys = .ok after) :
    ∃ last, readData host other = .ok last ∧
      EndsLike sys other after last := by
  unfold readData at done
  obtain ⟨_, few, done⟩ := Outcome.bind_eq_ok_iff.mp done
  obtain ⟨filled, wasFilled, done⟩ := Outcome.bind_eq_ok_iff.mp done
  obtain ⟨stored, transferred, done⟩ := Outcome.bind_eq_ok_iff.mp done
  cases done
  have inside := exists_dmaTransfer_iff.mp ⟨stored, transferred⟩
  obtain ⟨lowMem, again⟩ :=
    (@exists_dmaTransfer_iff sys.dma other.lowMem filled.pDMABuffer
      (sys.fdc.fifo[6].toNat * 512)).mpr inside
  refine ⟨{ other with fdc := filled.answerPosition, lowMem := lowMem },
    ?_, rfl, fun same => ?_⟩
  · unfold readData
    simp only [fdc, dma, few, wasFilled, again, Outcome.ok_bind]
    rfl
  · rw [same, transferred] at again
    exact (Except.ok.inj again).symm

theorem doExecuteCommand_endsLike (fdc : other.fdc = sys.fdc)
    (dma : other.dma = sys.dma)
    (done : doExecuteCommand host sys = .ok after) :
    ∃ last, doExecuteCommand host other = .ok last ∧
      EndsLike sys other after last := by
  simp only [doExecuteCommand] at done ⊢
  rw [fdc]
  let command := [sys.fdc.fifo.toList.take sys.fdc.fifondx.toNat]
  let first : FloppySystem :=
    { sys with executed := sys.executed ++ command }
  let second : FloppySystem :=
    { other with fdc := sys.fdc, executed := other.executed ++ command }
  rcases Outcome.of_ite_eq_ok done with ⟨is, done⟩ | ⟨notRead, done⟩
  · rw [if_pos is]
    obtain ⟨last, again, ends⟩ :=
      @readData_endsLike host first second after rfl dma done
    exact ⟨last, again, ends.fdc, ends.lowMem⟩
  rcases Outcome.of_ite_eq_ok done with ⟨is, done⟩ | ⟨notRecal, done⟩
  · cases done
    rw [if_neg notRead, if_pos is]
    exact ⟨_, rfl, rfl, id⟩
  rcases Outcome.of_ite_eq_ok done with ⟨is, done⟩ | ⟨notSense, done⟩
  · cases done
    rw [if_neg notRead, if_neg notRecal, if_pos is]
    exact ⟨_, rfl, rfl, id⟩
  rcases Outcome.of_ite_eq_ok done with ⟨is, done⟩ | ⟨notId, done⟩
  · cases done
    rw [if_neg notRead, if_neg notRecal, if_neg notSense, if_pos is]
    exact ⟨_, rfl, rfl, id⟩
  rcases Outcome.of_ite_eq_ok done with ⟨is, done⟩ | ⟨notSeek, done⟩
  · cases done
    rw [if_neg notRead, if_neg notRecal, if_neg notSense, if_neg notId,
      if_pos is]
    exact ⟨_, rfl, rfl, id⟩
  · cases done
    rw [if_neg notRead, if_neg notRecal, if_neg notSense, if_neg notId,
      if_neg notSeek]
    exact ⟨_, rfl, rfl, id⟩

theorem writeFifo_endsLike (fdc : other.fdc = sys.fdc)
    (dma : other.dma = sys.dma)
    (done : writeFifo host sys val = .ok after) :
    ∃ last, writeFifo host other val = .ok last ∧
      EndsLike sys other after last := by
  unfold writeFifo at done ⊢
  obtain ⟨begun, began, done⟩ := Outcome.bind_eq_ok_iff.mp done
  obtain ⟨fifo, stored, done⟩ := Outcome.bind_eq_ok_iff.mp done
  simp only [fdc, began, stored, Outcome.ok_bind]
  let filled : Fdc :=
    { begun with fifo := fifo, fifondx := begun.fifondx + 1 }
  rcases Outcome.of_ite_eq_ok done with ⟨full, done⟩ | ⟨more, done⟩
  · rw [if_pos full]
    obtain ⟨last, again, ends⟩ :=
      @doExecuteCommand_endsLike host { sys with fdc := filled }
        { other with fdc := filled } after rfl dma done
    exact ⟨last, again, ends.fdc, ends.lowMem⟩
  · cases done
    rw [if_neg more]
    exact ⟨_, rfl, rfl, id⟩

/-- A write to the controller leaves the same registers whatever the RAM
holds. -/
theorem floppyOutb_endsLike (fdc : other.fdc = sys.fdc)
    (dma : other.dma = sys.dma)
    (done : floppyOutb host sys port val = .ok after) :
    ∃ last, floppyOutb host other port val = .ok last ∧
      EndsLike sys other after last := by
  unfold floppyOutb at done ⊢
  rw [fdc]
  rcases Outcome.of_ite_eq_ok done with ⟨output, done⟩ | ⟨notOutput, done⟩
  · cases done
    rw [if_pos output]
    exact ⟨_, rfl, rfl, id⟩
  rcases Outcome.of_ite_eq_ok done with ⟨fifo, done⟩ | ⟨notFifo, done⟩
  · rw [if_neg notOutput, if_pos fifo]
    exact writeFifo_endsLike fdc dma done
  rcases Outcome.of_ite_eq_ok done with ⟨control, done⟩ | ⟨-, done⟩
  · cases done
    rw [if_neg notOutput, if_neg notFifo, if_pos control]
    exact ⟨_, rfl, rfl, id⟩
  · cases done

end Ram

end Kvmulate.Floppy

/-! ## The device -/

namespace Kvmulate.Devices

open DeviceLib Kvmulate.Io Kvmulate.System

/-- The registers of the controllers. -/
def Transfers.registers (transfers : Transfers) :
    Floppy.Fdc × I8237.Controllers :=
  (transfers.fdc, transfers.dma)

/-- An access to a port, not a store to the RAM. -/
def isAccess : (Host × IoAccess) ⊕ LowMem → Bool
  | .inl _ => true
  | .inr _ => false

section Registers

variable {host : Host} {access : IoAccess} {data : IoData}
variable {state other next : Transfers}
variable {response : Vga.VideoResponse}

theorem floppyHandler_endsLike {sys other after : Floppy.FloppySystem}
    (fdc : other.fdc = sys.fdc) (dma : other.dma = sys.dma)
    (served : (floppyHandler host).serve sys access = .ok (data, after)) :
    ∃ last, (floppyHandler host).serve other access = .ok (data, last) ∧
      last.fdc = after.fdc := by
  cases access with
  | outb port val =>
      simp only [IoHandler.serve, floppyHandler, callOut] at served ⊢
      obtain ⟨written, done, built⟩ := Outcome.bind_eq_ok_iff.mp served
      cases built
      obtain ⟨last, again, ends⟩ :=
        Floppy.floppyOutb_endsLike fdc dma done
      rw [again]
      exact ⟨last, rfl, ends.fdc⟩
  | inb port =>
      simp only [IoHandler.serve, floppyHandler, callIn] at served ⊢
      obtain ⟨⟨val, read⟩, done, built⟩ := Outcome.bind_eq_ok_iff.mp served
      obtain ⟨⟨val, next⟩, called, stored⟩ :=
        Outcome.bind_eq_ok_iff.mp done
      cases built
      cases stored
      rw [fdc, called]
      exact ⟨_, rfl, rfl⟩
  | outw => cases served
  | outl => cases served
  | inw => cases served
  | inl => cases served

/-- A handler of the DMA controllers does not see the floppy controller. -/
theorem dma_determines {handler : IoHandler I8237.Controllers}
    (same : state.registers = other.registers)
    (served : (handler.onPart dmaOfTransfers).serve state access =
      .ok (data, next)) :
    ∃ last,
      (handler.onPart dmaOfTransfers).serve other access =
          .ok (data, last) ∧
        last.registers = next.registers := by
  obtain ⟨fdc, dma⟩ := Prod.mk.inj same
  have part : dmaOfTransfers.get other = dmaOfTransfers.get state :=
    dma.symm
  obtain ⟨after, called, rfl⟩ := serve_onPart_eq_ok_iff.mp served
  refine ⟨dmaOfTransfers.set after other,
    serve_onPart_eq_ok_iff.mpr ⟨after, ?_, rfl⟩, ?_⟩
  · rw [part]
    exact called
  · exact congrArg (·, after) fdc.symm

theorem floppy_determines
    (same : state.registers = other.registers)
    (served : ((floppyHandler host).onPart floppyOfTransfers).serve state
      access = .ok (data, next)) :
    ∃ last,
      ((floppyHandler host).onPart floppyOfTransfers).serve other access =
          .ok (data, last) ∧
        last.registers = next.registers := by
  obtain ⟨fdc, dma⟩ := Prod.mk.inj same
  obtain ⟨after, called, rfl⟩ := serve_onPart_eq_ok_iff.mp served
  obtain ⟨last, again, shown⟩ :=
    @floppyHandler_endsLike host access data
      (floppyOfTransfers.get state) (floppyOfTransfers.get other) after
      fdc.symm (congrArg I8237.Controllers.dma dma.symm) called
  exact ⟨floppyOfTransfers.set last other,
    serve_onPart_eq_ok_iff.mpr ⟨last, again, rfl⟩,
    Prod.ext shown dma.symm⟩

/-- An access to a port goes by the registers alone. -/
theorem access_determines
    (same : state.registers = other.registers)
    (called : ioAccess (tableOf (transfersHandlers host)) state access =
      .ok (data, next)) :
    ∃ last,
      ioAccess (tableOf (transfersHandlers host)) other access =
          .ok (data, last) ∧
        last.registers = next.registers := by
  cases found : lookupHandler (tableOf (transfersHandlers host))
      access.port with
  | none =>
      obtain ⟨answer, always⟩ := exists_data_of_unclaimed found
      rw [always] at called
      cases called
      exact ⟨other, always other, same.symm⟩
  | some handler =>
      have among : handler ∈ transfersHandlers host := by
        rw [lookupHandler_tableOf (transfers_room host)] at found
        exact List.mem_of_find?_eq_some found
      rw [ioAccess_of_lookup found] at called ⊢
      simp only [transfersHandlers, List.mem_cons, List.not_mem_nil,
        or_false] at among
      rcases among with rfl | rfl | rfl | rfl
      · exact dma_determines same called
      · exact dma_determines same called
      · exact dma_determines same called
      · exact floppy_determines same called

theorem transfers_determines
    (same : state.registers = other.registers)
    (called : transfersDevice.call state (.inl (host, access)) =
      .ok (response, next)) :
    ∃ last,
      transfersDevice.call other (.inl (host, access)) =
          .ok (response, last) ∧
        last.registers = next.registers := by
  obtain ⟨⟨data, after⟩, served, built⟩ := Outcome.bind_eq_ok_iff.mp called
  cases built
  obtain ⟨last, again, shown⟩ := access_determines same served
  exact ⟨last, Outcome.bind_eq_ok_iff.mpr ⟨(data, last), again, rfl⟩,
    shown⟩

/-- The stores to the RAM are not seen in the registers. -/
theorem transfers_unwinds :
    Unwinds transfersDevice.call isAccess Transfers.registers where
  returns state input store := by
    cases input with
    | inl => cases store
    | inr lowMem => exact ⟨_, _, rfl, rfl⟩
  determines counts same called := by
    rename_i input _
    cases input with
    | inl own => exact transfers_determines same called
    | inr => cases counts

end Registers

/-! ## Drivers -/

/-- The accesses to the ports of the controllers. -/
def transferAccess : DeviceStep → Option IoAccess
  | .port _ access =>
      if deviceOf (servedBy access.port) = .transfers then some access
      else none
  | _ => none

def isTransfer (step : DeviceStep) : Bool := (transferAccess step).isSome

/-- What the controllers answer. -/
def transferResponses (given : List DeviceStep)
    (delivered : List Vga.VideoResponse) : List Vga.VideoResponse :=
  ownResponses isTransfer given delivered

/-- All calls to files succeed. -/
def CallsSucceed : DeviceStep → Prop
  | .port host _ => host.calls = HostCalls.full
  | _ => True

/-- The accesses of a driver that has the machine for itself. -/
def driverInputs (accesses : List IoAccess) :
    List ((Host × IoAccess) ⊕ LowMem) :=
  accesses.map fun access => .inl (Host.atNoon, access)

section Drivers

variable {machine : Machine} {given : List DeviceStep}
variable {state last : Transfers} {step : DeviceStep}
variable {answers : List Vga.VideoResponse}

/-- Of the host, only the outcome of its calls counts. -/
theorem transfersHandlers_of_full {host : Host}
    (full : host.calls = HostCalls.full) :
    transfersHandlers host = transfersHandlers Host.atNoon := by
  obtain ⟨time, calls⟩ := host
  change calls = HostCalls.full at full
  rw [full]
  rfl

theorem transfersCall_of_full {host : Host} (access : IoAccess)
    (full : host.calls = HostCalls.full) :
    transfersDevice.call state (.inl (host, access)) =
      transfersDevice.call state (.inl (Host.atNoon, access)) := by
  have same : transfersDevice.handlers host =
      transfersDevice.handlers Host.atNoon :=
    transfersHandlers_of_full full
  rw [TableDevice.call_port, TableDevice.call_port, same]

theorem takes_of_transferAccess {access : IoAccess}
    (own : transferAccess step = some access) :
    ∃ host, step = .port host access ∧
      transfersDevice.component.takes step =
        some (.inl (host, access)) := by
  cases step with
  | port host other =>
      obtain ⟨mine, same⟩ := Option.ite_none_right_eq_some.mp own
      cases same
      exact ⟨host, rfl, if_pos mine⟩
  | write => cases own
  | read => cases own
  | key => cases own
  | ram => cases own

theorem takes_of_transferAccess_none
    (other : transferAccess step = none) :
    transfersDevice.component.takes step = none ∨
      ∃ lowMem,
        transfersDevice.component.takes step = some (.inr lowMem) := by
  cases step with
  | port host access =>
      refine .inl (if_neg fun mine => ?_)
      cases (if_pos mine).symm.trans other
  | write => exact .inl rfl
  | read => exact .inl rfl
  | key => exact .inl rfl
  | ram lowMem => exact .inr ⟨lowMem, rfl⟩

/-- Without the stores to the RAM, the device sees the accesses. -/
theorem run_accesses (succeed : ∀ step ∈ given, CallsSucceed step) :
    run transfersDevice.call state
        ((transfersDevice.component.inputs given).filter isAccess) =
      run transfersDevice.call state
        (driverInputs (given.filterMap transferAccess)) := by
  induction given generalizing state with
  | nil => rfl
  | cons step rest inductionHypothesis =>
      have later := fun state => @inductionHypothesis state
        fun other mem => succeed other (List.mem_cons_of_mem _ mem)
      cases own : transferAccess step with
      | none =>
          rw [List.filterMap_cons_none own]
          rcases takes_of_transferAccess_none own with apart | store
          · rw [Component.inputs_cons_of_none apart]
            exact later state
          · obtain ⟨lowMem, taken⟩ := store
            have unseen : ¬ isAccess (.inr lowMem) = true :=
              Bool.false_ne_true
            rw [Component.inputs_cons_of_some taken,
              List.filter_cons_of_neg unseen]
            exact later state
      | some access =>
          obtain ⟨host, rfl, taken⟩ := takes_of_transferAccess own
          have full : host.calls = HostCalls.full :=
            succeed _ List.mem_cons_self
          rw [List.filterMap_cons_some own,
            Component.inputs_cons_of_some taken,
            List.filter_cons_of_pos rfl]
          change run _ _ _ =
            run _ _ (Sum.inl (Host.atNoon, access) :: driverInputs _)
          rw [run, run, transfersCall_of_full access full]
          cases transfersDevice.call state
              (.inl (Host.atNoon, access)) with
          | error stop => rfl
          | ok answered =>
              simp only [Outcome.ok_bind]
              rw [later answered.2]

theorem transferResponses_eq {delivered : List Vga.VideoResponse} :
    ownResponses isAccess (transfersDevice.component.inputs given)
        (transfersDevice.component.responses given delivered) =
      transferResponses given delivered := by
  induction given generalizing delivered with
  | nil => rfl
  | cons step rest inductionHypothesis =>
      unfold transferResponses at inductionHypothesis ⊢
      cases delivered with
      | nil =>
          rw [Component.responses, ownResponses]
          cases transfersDevice.component.inputs (step :: rest) with
          | nil => rfl
          | cons => rfl
      | cons response others =>
          cases own : transferAccess step with
          | none =>
              have apart : isTransfer step = false := by
                unfold isTransfer
                rw [own]
                rfl
              rw [ownResponses_cons_of_false apart]
              rcases takes_of_transferAccess_none own with apart | store
              · rw [Component.inputs_cons_of_none apart,
                  Component.responses_cons_of_none apart]
                exact inductionHypothesis
              · obtain ⟨lowMem, taken⟩ := store
                rw [Component.inputs_cons_of_some taken,
                  Component.responses_cons_of_some taken,
                  ownResponses_cons_of_false rfl]
                exact inductionHypothesis
          | some access =>
              obtain ⟨host, rfl, taken⟩ := takes_of_transferAccess own
              have counts : isTransfer (.port host access) = true := by
                unfold isTransfer
                rw [own]
                rfl
              rw [ownResponses_cons_of_true counts,
                Component.inputs_cons_of_some taken,
                Component.responses_cons_of_some taken,
                ownResponses_cons_of_true rfl, inductionHypothesis]

/-- What a driver of the floppy controller finds when it has the machine for
itself, it finds whatever else the machine is used for, stores to the RAM
included. -/
theorem exists_run_of_driver
    (succeed : ∀ step ∈ given, CallsSucceed step)
    (others : ∀ device : Device, device ≠ .transfers →
      device.Serves machine given)
    (same : state.registers = (transfersPart.get machine).registers)
    (ran : run transfersDevice.call state
      (driverInputs (given.filterMap transferAccess)) =
        .ok (answers, last)) :
    ∃ delivered final,
      run deviceStep machine given = .ok (delivered, final) ∧
        (transfersPart.get final).registers = last.registers ∧
          transferResponses given delivered = answers := by
  rw [← run_accesses succeed] at ran
  obtain ⟨shown, ended, ranAll, registers, told⟩ :=
    exists_run_of_purged transfers_unwinds same ran
  obtain ⟨delivered, final, ranMachine⟩ :=
    exists_run_of_serves .transfers ⟨shown, ended, ranAll⟩ others
  obtain ⟨again, alone, responses⟩ :=
    @Component.runsAlone_of_run _ _ _ _ _ _ _ _
      transfersDevice.component _ _ _ _ ranMachine
  have agree : run transfersDevice.call (transfersPart.get machine)
      (transfersDevice.component.inputs given) =
        .ok (again, transfersPart.get final) := alone
  rw [ranAll] at agree
  obtain ⟨rfl, rfl⟩ := Prod.mk.inj (Except.ok.inj agree)
  have shows : shown.map transfersDevice.component.shows = shown :=
    List.map_id shown
  rw [shows] at responses
  refine ⟨delivered, final, ranMachine, registers, ?_⟩
  rw [← transferResponses_eq, ← responses]
  exact told

end Drivers

end Kvmulate.Devices
