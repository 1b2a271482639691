import Kvmulate.Floppy.Simulation

/-!
# The index of the FIFO

`fifondx` counts the reads of the FIFO and the writes alike.  Where a written
byte takes the last place of a result, `doExecuteCommand` finds no command in
front of it and the index is not reset.
-/

namespace Kvmulate.Floppy

open DeviceLib

namespace FloppyStep

def WritesFifo : FloppyStep → Prop
  | .outb port _ => port = regDataFifo
  | _ => False

def ReadsFifo : FloppyStep → Prop
  | .inb port => port = regDataFifo
  | _ => False

/-- A write to the DOR that resets the controller. -/
def Resets : FloppyStep → Prop
  | .outb port val => port = regDigitalOut ∧ val &&& dorNReset = 0
  | _ => False

end FloppyStep

/-- An access of the FIFO finds the index in the array. -/
def IndexInside (sys : FloppySystem) (input : FloppyInput) : Prop :=
  input.2.WritesFifo ∨ input.2.ReadsFifo →
    Indexes (512 + 10) sys.fdc.fifondx

def IndexWithin (sys : FloppySystem) : Prop :=
  0 ≤ sys.fdc.fifondx ∧ sys.fdc.fifondx ≤ sys.fdc.fifolen

/-- A byte is written to the last place of a result. -/
def TakesLastPlace (sys : FloppySystem) (input : FloppyInput) : Prop :=
  input.2.WritesFifo ∧ 0 < sys.fdc.fifondx ∧
    sys.fdc.fifondx + 1 = sys.fdc.fifolen ∧
      commandOf (sys.fdc.byte 0) = none

/-- The index stands at the end of the FIFO. -/
def Stalled (sys : FloppySystem) : Prop :=
  0 < sys.fdc.fifondx ∧ sys.fdc.fifondx = sys.fdc.fifolen

/-- No command or result is longer than READ DATA, and a FIFO that stalled
starts with the byte of a result. -/
structure Bounded (sys : FloppySystem) : Prop where
  within : IndexWithin sys
  short : sys.fdc.fifolen ≤ 9
  unselected : Stalled sys → commandOf (sys.fdc.byte 0) = none

/-! ## Steps -/

section Steps

variable {host : HostCalls} {sys after : FloppySystem}
variable {input : FloppyInput} {response : Option Uint8} {val : Uint8}

/-- A command that is found resets the index, any other byte in its place
changes nothing. -/
theorem doExecuteCommand_index
    (done : doExecuteCommand host sys = .ok after) :
    commandOf (sys.fdc.byte 0) = none ∧ after.fdc = sys.fdc ∨
      commandOf (sys.fdc.byte 0) ≠ none ∧ after.fdc.fifondx = 0 ∧
        0 ≤ after.fdc.fifolen ∧ after.fdc.fifolen ≤ 9 := by
  cases selects : commandOf (sys.fdc.byte 0) with
  | none =>
      rw [doExecuteCommand_of_none selects] at done
      cases done
      exact Or.inl ⟨rfl, rfl⟩
  | some command =>
      rw [doExecuteCommand_of_selects selects] at done
      refine Or.inr ⟨nofun, ?_⟩
      cases command with
      | readData =>
          obtain ⟨filled, shown, -, -, -⟩ := readData_fdc done
          rw [shown]
          exact ⟨rfl, (by decide : (0 : Int) ≤ 7),
            (by decide : (7 : Int) ≤ 9)⟩
      | recalibrate =>
          cases done
          exact ⟨rfl, (by decide : (0 : Int) ≤ 1),
            (by decide : (1 : Int) ≤ 9)⟩
      | senseInterrupt =>
          cases done
          exact ⟨rfl, (by decide : (0 : Int) ≤ 2),
            (by decide : (2 : Int) ≤ 9)⟩
      | readId =>
          cases done
          exact ⟨rfl, (by decide : (0 : Int) ≤ 7),
            (by decide : (7 : Int) ≤ 9)⟩
      | seek =>
          cases done
          exact ⟨rfl, Int.le_refl 0, (by decide : (0 : Int) ≤ 9)⟩

theorem byte_zero_of_store {fifo : Vector Uint8 (512 + 10)} {fdc : Fdc}
    {index : Int} (positive : 0 < index)
    (stored : store fdc.fifo index val = .ok fifo) :
    fifo.toList.getD 0 0 = fdc.byte 0 := by
  have inside := indexes_of_store stored
  rw [store_of_indexes inside] at stored
  cases stored
  have later : index.toNat ≠ 0 := by omega
  have list :
      (fdc.fifo.setIfInBounds index.toNat val).toList =
        fdc.fifo.toList.set index.toNat val := by
    simp
  rw [list, Fdc.byte, List.getD_eq_getElem?_getD,
    List.getD_eq_getElem?_getD, List.getElem?_set_ne later]

/-- Behind the first byte, a byte is stored and a full FIFO executed. -/
theorem writeFifo_of_pos (positive : 0 < sys.fdc.fifondx)
    (done : writeFifo host sys val = .ok after) :
    ∃ fifo, store sys.fdc.fifo sys.fdc.fifondx val = .ok fifo ∧
      (sys.fdc.fifolen ≤ sys.fdc.fifondx + 1 ∧
          doExecuteCommand host
            { sys with
              fdc := { sys.fdc with
                fifo := fifo, fifondx := sys.fdc.fifondx + 1 } } =
              .ok after ∨
        sys.fdc.fifondx + 1 < sys.fdc.fifolen ∧
          after.fdc =
            { sys.fdc with
              fifo := fifo, fifondx := sys.fdc.fifondx + 1 }) := by
  have begun : ¬ sys.fdc.fifondx = 0 := by omega
  unfold writeFifo beginCommand at done
  simp only [if_neg begun, Outcome.pure_eq_ok, Outcome.ok_bind] at done
  obtain ⟨fifo, stored, done⟩ := Outcome.bind_eq_ok_iff.mp done
  refine ⟨fifo, stored, ?_⟩
  rcases Outcome.of_ite_eq_ok done with ⟨full, done⟩ | ⟨more, done⟩
  · exact Or.inl ⟨full, done⟩
  · cases done
    exact Or.inr ⟨Int.not_le.mp more, rfl⟩

theorem exists_command_of_length {fifolen : Int}
    (length : commandLength val = .ok fifolen) :
    ∃ command, commandOf val = some command ∧
      fifolen = command.length := by
  cases selects : commandOf val with
  | none =>
      obtain ⟨notReadData, notRecalibrate, notSense, notReadId, notSeek⟩ :=
        code_ne_of_commandOf_eq_none _ selects
      unfold commandLength at length
      simp only [if_neg notReadData, if_neg notRecalibrate,
        if_neg notSense, if_neg notReadId, if_neg notSeek] at length
      cases length
  | some command =>
      rw [commandLength_of selects] at length
      cases length
      exact ⟨command, rfl, rfl⟩

/-- The first byte sets the length of the FIFO. -/
theorem writeFifo_of_zero (starts : sys.fdc.fifondx = 0)
    (done : writeFifo host sys val = .ok after) :
    ∃ command fifo, commandOf val = some command ∧
      store sys.fdc.fifo 0 val = .ok fifo ∧
      ((command.length : Int) ≤ 1 ∧
          doExecuteCommand host
            { sys with
              fdc := { sys.fdc with
                fifolen := command.length
                msr := sys.fdc.msr ||| msrCb
                fifo := fifo
                fifondx := 0 + 1 } } = .ok after ∨
        1 < (command.length : Int) ∧ after.fdc.fifondx = 1 ∧
          after.fdc.fifolen = command.length) := by
  unfold writeFifo beginCommand at done
  rw [if_pos starts] at done
  obtain ⟨begun, began, done⟩ := Outcome.bind_eq_ok_iff.mp done
  obtain ⟨fifolen, length, began⟩ := Outcome.bind_eq_ok_iff.mp began
  cases began
  obtain ⟨fifo, stored, done⟩ := Outcome.bind_eq_ok_iff.mp done
  obtain ⟨command, selects, rfl⟩ := exists_command_of_length length
  simp only [starts] at stored done
  refine ⟨command, fifo, selects, stored, ?_⟩
  rcases Outcome.of_ite_eq_ok done with ⟨full, done⟩ | ⟨more, done⟩
  · exact Or.inl ⟨full, done⟩
  · cases done
    exact Or.inr ⟨Int.not_le.mp more, rfl, rfl⟩

/-- A first byte does not stall the FIFO: a command of one byte is found. -/
theorem bounded_of_zero (starts : sys.fdc.fifondx = 0)
    (done : writeFifo host sys val = .ok after) :
    Bounded after ∧ ¬ Stalled after := by
  obtain ⟨command, fifo, selects, stored, rest⟩ :=
    writeFifo_of_zero starts done
  rcases rest with ⟨-, executed⟩ | ⟨more, index, length⟩
  · have byte : fifo.toList.getD 0 0 = val := by
      have first := take_of_store stored
      have whole :
          fifo.toList.getD 0 0 = (fifo.toList.take 1).getD 0 0 := by
        rw [List.getD_eq_getElem?_getD, List.getD_eq_getElem?_getD,
          List.getElem?_take_of_lt Nat.zero_lt_one]
      rw [whole]
      exact congrArg (fun bytes => bytes.getD 0 0) first
    rcases doExecuteCommand_index executed with
      ⟨unselected, -⟩ | ⟨-, index, low, high⟩
    · have none : commandOf (fifo.toList.getD 0 0) = none := unselected
      rw [byte, selects] at none
      cases none
    · have free : ¬ Stalled after := by
        rintro ⟨positive, -⟩
        omega
      exact ⟨⟨⟨by omega, by omega⟩, high,
        fun stalled => absurd stalled free⟩, free⟩
  · have short := command.length_le
    have free : ¬ Stalled after := by
      rintro ⟨-, last⟩
      omega
    exact ⟨⟨⟨by omega, by omega⟩, by omega,
      fun stalled => absurd stalled free⟩, free⟩

/-- Behind the first byte, a write stalls the FIFO where it takes the last
place of a result, and nowhere else. -/
theorem bounded_of_pos (bounded : Bounded sys)
    (positive : 0 < sys.fdc.fifondx) (free : ¬ Stalled sys)
    (done : writeFifo host sys val = .ok after) :
    Bounded after ∧
      (Stalled after ↔ sys.fdc.fifondx + 1 = sys.fdc.fifolen ∧
        commandOf (sys.fdc.byte 0) = none) := by
  have below : sys.fdc.fifondx < sys.fdc.fifolen := by
    have upper := bounded.within.2
    by_contra reached
    exact free ⟨positive, by omega⟩
  have short := bounded.short
  obtain ⟨fifo, stored, rest⟩ := writeFifo_of_pos positive done
  have byte := byte_zero_of_store positive stored
  rcases rest with ⟨full, executed⟩ | ⟨more, shown⟩
  · rcases doExecuteCommand_index executed with
      ⟨unselected, same⟩ | ⟨selected, index, low, high⟩
    · have none : commandOf (fifo.toList.getD 0 0) = none := unselected
      rw [byte] at none
      have found : after.fdc.byte 0 = sys.fdc.byte 0 := by
        rw [same]
        exact byte
      have index : after.fdc.fifondx = sys.fdc.fifondx + 1 := by
        rw [same]
      have length : after.fdc.fifolen = sys.fdc.fifolen := by
        rw [same]
      refine ⟨⟨⟨by omega, by omega⟩, by omega, fun _ => ?_⟩,
        iff_of_true ⟨by omega, by omega⟩ ⟨by omega, none⟩⟩
      rw [found]
      exact none
    · have some : commandOf (fifo.toList.getD 0 0) ≠ none := selected
      rw [byte] at some
      have freed : ¬ Stalled after := by
        rintro ⟨still, -⟩
        omega
      exact ⟨⟨⟨by omega, by omega⟩, high,
        fun stalled => absurd stalled freed⟩,
        iff_of_false freed fun last => some last.2⟩
  · have index : after.fdc.fifondx = sys.fdc.fifondx + 1 := by
      rw [shown]
    have length : after.fdc.fifolen = sys.fdc.fifolen := by
      rw [shown]
    have freed : ¬ Stalled after := by
      rintro ⟨-, last⟩
      omega
    exact ⟨⟨⟨by omega, by omega⟩, by omega,
      fun stalled => absurd stalled freed⟩,
      iff_of_false freed fun last => by omega⟩

/-- A read of the FIFO moves the index on or resets it. -/
theorem readFifo_index {fdc next : Fdc}
    (done : floppyInb fdc regDataFifo = .ok (val, next)) :
    next.fifolen = fdc.fifolen ∧ next.fifo = fdc.fifo ∧
      (next.fifondx = 0 ∨
        next.fifondx = fdc.fifondx + 1 ∧ next.fifondx < fdc.fifolen) := by
  unfold floppyInb at done
  rw [if_neg (by decide : ¬ regDataFifo = regMainStatus),
    if_neg (by decide : ¬ regDataFifo = regDigitalOut),
    if_pos rfl] at done
  obtain ⟨byte, -, done⟩ := Outcome.bind_eq_ok_iff.mp done
  rcases Outcome.of_ite_eq_ok done with ⟨-, done⟩ | ⟨more, done⟩
  · cases done
    exact ⟨rfl, rfl, Or.inl rfl⟩
  · cases done
    exact ⟨rfl, rfl, Or.inr ⟨rfl, Int.not_le.mp more⟩⟩

/-- Reads of the other registers change nothing. -/
theorem readRegister_eq {fdc next : Fdc} {port : Uint16}
    (other : port ≠ regDataFifo)
    (done : floppyInb fdc port = .ok (val, next)) :
    next = fdc := by
  unfold floppyInb at done
  rcases Outcome.of_ite_eq_ok done with ⟨-, done⟩ | ⟨-, done⟩
  · cases done
    rfl
  rcases Outcome.of_ite_eq_ok done with ⟨-, done⟩ | ⟨-, done⟩
  · cases done
    rfl
  rw [if_neg other] at done
  cases done

/-- The FIFO and its registers are left alone. -/
structure SameFifo (sys after : FloppySystem) : Prop where
  index : after.fdc.fifondx = sys.fdc.fifondx
  length : after.fdc.fifolen = sys.fdc.fifolen
  fifo : after.fdc.fifo = sys.fdc.fifo

theorem SameFifo.stalled_iff (same : SameFifo sys after) :
    Stalled after ↔ Stalled sys := by
  unfold Stalled
  rw [same.index, same.length]

theorem SameFifo.bounded (same : SameFifo sys after)
    (bounded : Bounded sys) : Bounded after := by
  have byte : after.fdc.byte 0 = sys.fdc.byte 0 := by
    unfold Fdc.byte
    rw [same.fifo]
  refine ⟨?_, ?_, fun stalled => ?_⟩
  · unfold IndexWithin
    rw [same.index, same.length]
    exact bounded.within
  · rw [same.length]
    exact bounded.short
  · rw [byte]
    exact bounded.unselected (same.stalled_iff.mp stalled)

/-- A FIFO at its start is not stalled. -/
theorem bounded_of_start (starts : after.fdc.fifondx = 0)
    (low : 0 ≤ after.fdc.fifolen) (high : after.fdc.fifolen ≤ 9) :
    Bounded after ∧ ¬ Stalled after := by
  have free : ¬ Stalled after := by
    rintro ⟨positive, -⟩
    omega
  exact ⟨⟨⟨by omega, by omega⟩, high,
    fun stalled => absurd stalled free⟩, free⟩

/-- The bounds hold after the step, and it says whether the FIFO is
stalled. -/
def BoundedAfter (sys : FloppySystem) (input : FloppyInput)
    (after : FloppySystem) : Prop :=
  Bounded after ∧
    (Stalled after ↔ TakesLastPlace sys input ∨
      Stalled sys ∧ ¬ (input.2.ReadsFifo ∨ input.2.Resets))

theorem boundedAfter_of_same (same : SameFifo sys after)
    (bounded : Bounded sys) (noWrite : ¬ input.2.WritesFifo)
    (noRenewal : ¬ (input.2.ReadsFifo ∨ input.2.Resets)) :
    BoundedAfter sys input after := by
  refine ⟨same.bounded bounded, same.stalled_iff.trans ?_⟩
  constructor
  · intro stalled
    exact Or.inr ⟨stalled, noRenewal⟩
  · rintro (⟨writes, -⟩ | ⟨stalled, -⟩)
    · exact absurd writes noWrite
    · exact stalled

theorem boundedAfter_of_renewed (free : Bounded after ∧ ¬ Stalled after)
    (noWrite : ¬ input.2.WritesFifo)
    (renewal : input.2.ReadsFifo ∨ input.2.Resets) :
    BoundedAfter sys input after := by
  refine ⟨free.1, iff_of_false free.2 ?_⟩
  rintro (⟨writes, -⟩ | ⟨-, none⟩)
  · exact noWrite writes
  · exact none renewal

/-- A byte for the FIFO, which is not stalled. -/
theorem boundedAfter_writeFifo {host : HostCalls} {port : Uint16}
    (bounded : Bounded sys) (free : ¬ Stalled sys)
    (isFifo : port = regDataFifo)
    (wrote : writeFifo host sys val = .ok after) :
    BoundedAfter sys (host, .outb port val) after := by
  have lower := bounded.within.1
  by_cases starts : sys.fdc.fifondx = 0
  · obtain ⟨afterBounded, afterFree⟩ := bounded_of_zero starts wrote
    refine ⟨afterBounded, iff_of_false afterFree ?_⟩
    rintro (⟨-, positive, -⟩ | ⟨stalled, -⟩)
    · omega
    · exact free stalled
  · have positive : 0 < sys.fdc.fifondx := by omega
    obtain ⟨afterBounded, stalls⟩ :=
      bounded_of_pos bounded positive free wrote
    refine ⟨afterBounded, stalls.trans ?_⟩
    constructor
    · rintro ⟨last, unselected⟩
      exact Or.inl ⟨isFifo, positive, last, unselected⟩
    · rintro (⟨-, -, last, unselected⟩ | ⟨stalled, -⟩)
      · exact ⟨last, unselected⟩
      · exact absurd stalled free

/-- A read of the FIFO goes on to the next result or starts again. -/
theorem bounded_readFifo {fdc : Fdc} (bounded : Bounded sys)
    (read : floppyInb sys.fdc regDataFifo = .ok (val, fdc)) :
    Bounded { sys with fdc := fdc } ∧ ¬ Stalled { sys with fdc := fdc } := by
  obtain ⟨lower, upper⟩ := bounded.within
  have short := bounded.short
  obtain ⟨length, fifo, starts | ⟨index, more⟩⟩ := readFifo_index read
  · have lengthLow : (0 : Int) ≤ fdc.fifolen := by omega
    have lengthHigh : fdc.fifolen ≤ 9 := by omega
    exact bounded_of_start starts lengthLow lengthHigh
  · have free :
        ¬ (0 < fdc.fifondx ∧ fdc.fifondx = fdc.fifolen) := by
      rintro ⟨-, last⟩
      omega
    exact ⟨⟨⟨by change 0 ≤ fdc.fifondx; omega,
      by change fdc.fifondx ≤ fdc.fifolen; omega⟩,
      by change fdc.fifolen ≤ 9; omega,
      fun stalled => absurd stalled free⟩, free⟩

/-- What a step that is no write to a stalled FIFO does to the bounds. -/
theorem bounded_step (bounded : Bounded sys)
    (proper : ¬ (Stalled sys ∧ input.2.WritesFifo))
    (called : floppyStep sys input = .ok (response, after)) :
    BoundedAfter sys input after := by
  obtain ⟨host, step⟩ := input
  cases step with
  | outb port val =>
      obtain ⟨written, wrote, done⟩ := Outcome.bind_eq_ok_iff.mp called
      cases done
      unfold floppyOutb at wrote
      rcases Outcome.of_ite_eq_ok wrote with ⟨isDor, wrote⟩ | ⟨-, wrote⟩
      · cases wrote
        have noWrite : ¬ port = regDataFifo := by
          rw [isDor]
          decide
        by_cases resets : val &&& dorNReset = 0
        · refine boundedAfter_of_renewed ?_ noWrite (Or.inr ⟨isDor, resets⟩)
          unfold writeDor
          rw [if_pos resets]
          exact bounded_of_start rfl (Int.le_refl 0)
            (by decide : (0 : Int) ≤ 9)
        · refine boundedAfter_of_same ?_ bounded noWrite ?_
          · unfold writeDor
            rw [if_neg resets]
            exact ⟨rfl, rfl, rfl⟩
          · rintro (reads | ⟨-, reset⟩)
            · exact reads
            · exact resets reset
      rcases Outcome.of_ite_eq_ok wrote with ⟨isFifo, wrote⟩ | ⟨-, wrote⟩
      · have free : ¬ Stalled sys :=
          fun stalled => proper ⟨stalled, isFifo⟩
        exact boundedAfter_writeFifo bounded free isFifo wrote
      rcases Outcome.of_ite_eq_ok wrote with ⟨isCcr, wrote⟩ | ⟨-, wrote⟩
      · cases wrote
        refine boundedAfter_of_same ⟨rfl, rfl, rfl⟩ bounded ?_ ?_
        · change ¬ port = regDataFifo
          rw [isCcr]
          decide
        · rintro (reads | ⟨isDor, -⟩)
          · exact reads
          · rw [isCcr] at isDor
            exact absurd isDor (by decide)
      · cases wrote
  | inb port =>
      obtain ⟨⟨byte, fdc⟩, read, done⟩ := Outcome.bind_eq_ok_iff.mp called
      cases done
      by_cases isFifo : port = regDataFifo
      · rw [isFifo] at read
        exact boundedAfter_of_renewed (bounded_readFifo bounded read) id
          (Or.inl isFifo)
      · have same := readRegister_eq isFifo read
        refine boundedAfter_of_same ?_ bounded id ?_
        · rw [same]
          exact ⟨rfl, rfl, rfl⟩
        · rintro (reads | resets)
          · exact isFifo reads
          · exact resets
  | program dma =>
      cases called
      exact boundedAfter_of_same ⟨rfl, rfl, rfl⟩ bounded id
        fun renewal => renewal.elim id id

/-- The index stands at the end of the FIFO or behind it, after a result. -/
structure Overdue (sys : FloppySystem) : Prop where
  positive : 0 < sys.fdc.fifondx
  past : sys.fdc.fifolen ≤ sys.fdc.fifondx
  unselected : commandOf (sys.fdc.byte 0) = none

theorem Stalled.overdue (stalled : Stalled sys) (bounded : Bounded sys) :
    Overdue sys :=
  ⟨stalled.1, Int.le_of_eq stalled.2.symm, bounded.unselected stalled⟩

/-- From there on every byte written moves the index on. -/
theorem Overdue.write (overdue : Overdue sys)
    (inside : sys.fdc.fifondx < 512 + 10) :
    ∃ next, floppyStep sys (host, .outb regDataFifo val) =
        .ok (none, next) ∧
      Overdue next ∧ next.fdc.fifondx = sys.fdc.fifondx + 1 ∧
        next.fdc.fifolen = sys.fdc.fifolen := by
  have positive := overdue.positive
  have past := overdue.past
  have begun : ¬ sys.fdc.fifondx = 0 := by omega
  have full : sys.fdc.fifolen ≤ sys.fdc.fifondx + 1 := by omega
  obtain ⟨fifo, stored⟩ :
      ∃ fifo, store sys.fdc.fifo sys.fdc.fifondx val = .ok fifo :=
    ⟨_, store_of_indexes ⟨by omega, by omega⟩⟩
  have byte := byte_zero_of_store positive stored
  have unselected : commandOf (fifo.toList.getD 0 0) = none := by
    rw [byte]
    exact overdue.unselected
  let next : FloppySystem :=
    { sys with
      fdc := { sys.fdc with
        fifo := fifo, fifondx := sys.fdc.fifondx + 1 } }
  have executed :=
    @doExecuteCommand_of_none host next unselected
  let final : FloppySystem :=
    { next with
      executed := next.executed ++
        [next.fdc.fifo.toList.take next.fdc.fifondx.toNat] }
  have wrote : writeFifo host sys val = .ok final := by
    unfold writeFifo beginCommand
    simp only [if_neg begun, Outcome.pure_eq_ok, Outcome.ok_bind, stored,
      if_pos full]
    exact executed
  have moved : 0 < sys.fdc.fifondx + 1 := by omega
  exact ⟨final, floppyStep_of_writeFifo wrote,
    ⟨moved, full, unselected⟩, rfl, rfl⟩

/-- The bytes written to a FIFO that stalled leave the array. -/
theorem Overdue.writes_leave {count : Nat} (overdue : Overdue sys)
    (last : sys.fdc.fifondx + count = 512 + 10) :
    ¬ StepsMeet floppyStep IndexInside sys
      (List.replicate (count + 1) (host, .outb regDataFifo val)) := by
  induction count generalizing sys with
  | zero =>
      rintro ⟨inside, -⟩
      have high := (inside (Or.inl rfl)).2
      omega
  | succ count inductionHypothesis =>
      rintro ⟨-, rest⟩
      have inside : sys.fdc.fifondx < 512 + 10 := by omega
      obtain ⟨next, called, nextOverdue, index, -⟩ :=
        @Overdue.write host sys val overdue inside
      refine inductionHypothesis nextOverdue ?_ (rest none next called)
      rw [index]
      omega

end Steps

/-! ## Runs -/

section Runs

variable {image : Option (List Byte)}
variable {allocated : Vector Uint8 dmaBufferSize} {dma : Dma}
variable {lowMem : LowMem} {inputs : List FloppyInput}

theorem bounded_init :
    Bounded (x86FloppyInit image allocated dma lowMem) ∧
      ¬ Stalled (x86FloppyInit image allocated dma lowMem) :=
  bounded_of_start rfl (Int.le_refl 0) (by decide : (0 : Int) ≤ 9)

/-- Whatever the guest does, the index stays in the FIFO exactly when a byte
written to the last place of a result is followed by a read of the FIFO or a
reset before the next write. -/
theorem fifo_index_within_iff :
    StepsMeet floppyStep IndexInside
          (x86FloppyInit image allocated dma lowMem) inputs ∧
        Throughout floppyStep IndexWithin
          (x86FloppyInit image allocated dma lowMem) inputs ↔
      Renewed floppyStep TakesLastPlace
        (fun _ input => input.2.ReadsFifo ∨ input.2.Resets)
        (fun _ input => input.2.WritesFifo)
        (x86FloppyInit image allocated dma lowMem) inputs := by
  obtain ⟨initial, free⟩ := @bounded_init image allocated dma lowMem
  have kept :=
    @kept_iff_stepsMeet _ _ _ floppyStep Bounded IndexWithin IndexInside
      (fun sys input => ¬ (Stalled sys ∧ input.2.WritesFifo))
      (fun bounded proper called =>
        (bounded_step bounded proper called).1)
      (fun bounded => bounded.within)
      (fun bounded _ => by
        have upper := bounded.within.2
        have short := bounded.short
        exact ⟨bounded.within.1, by omega⟩)
      (fun {sys input} bounded improper => by
        obtain ⟨stalled, writes⟩ := not_not.mp improper
        obtain ⟨host, step⟩ := input
        cases step with
        | outb port val =>
            obtain rfl : port = regDataFifo := writes
            have short := bounded.short
            have atEnd := stalled.2
            obtain ⟨next, called, -, index, length⟩ :=
              @Overdue.write host sys val (stalled.overdue bounded)
                (by omega)
            refine ⟨none, next, called, fun within => ?_⟩
            have upper := within.2
            omega
        | inb port =>
            exact writes.elim
        | program dma =>
            exact writes.elim)
      inputs _ initial
  rw [kept]
  refine (stepsMeet_iff_renewed
    (fun bounded proper called => (bounded_step bounded proper called).1)
    (fun bounded proper called => (bounded_step bounded proper called).2)
    initial).trans ?_
  exact and_iff_right fun stalled => absurd stalled free

/-- SENSE INTERRUPT, one of its results, and then bytes that no command asks
for. -/
def strayBytes (count : Nat) : List FloppyInput :=
  [(HostCalls.full, .outb regDataFifo 0x08),
    (HostCalls.full, .inb regDataFifo)] ++
      List.replicate count (HostCalls.full, .outb regDataFifo 0x00)

theorem strayBytes_succ (count : Nat) :
    strayBytes (count + 1) =
      strayBytes 1 ++
        List.replicate count
          (HostCalls.full, .outb regDataFifo 0x00) := rfl

/-- Two stray bytes leave the index behind the end of the FIFO, and enough of
them leave the array. -/
theorem fifo_index_not_always_within :
    let start :=
      x86FloppyInit none (Vector.replicate _ 0) Dma.zero
        ⟨Vector.replicate _ 0, Vector.replicate _ 0⟩
    ¬ Throughout floppyStep IndexWithin start (strayBytes 2) ∧
      ¬ StepsMeet floppyStep IndexInside start (strayBytes 522) := by
  intro start
  obtain ⟨responses, after, ran, index, length, unselected⟩ :
      ∃ responses after,
        run floppyStep start (strayBytes 1) = .ok (responses, after) ∧
          after.fdc.fifondx = 2 ∧ after.fdc.fifolen = 2 ∧
            commandOf (after.fdc.byte 0) = none := by
    have seen :
        (run floppyStep start (strayBytes 1)).map (fun reached =>
          (reached.2.fdc.fifondx, reached.2.fdc.fifolen,
            commandOf (reached.2.fdc.byte 0))) = .ok (2, 2, none) := by
      decide +kernel
    obtain ⟨reached, ran, parts⟩ := Outcome.map_eq_ok_iff.mp seen
    simp only [Prod.mk.injEq] at parts
    exact ⟨_, _, ran, parts⟩
  have overdue : Overdue after := ⟨by omega, by omega, unselected⟩
  rw [strayBytes_succ 1, strayBytes_succ 521]
  constructor
  · intro always
    have last :=
      Throughout.of_append always ran
    obtain ⟨next, called, -, nextIndex, nextLength⟩ :=
      @Overdue.write HostCalls.full after 0x00 overdue (by omega)
    have within := (last.2 none next called).2
    omega
  · intro inside
    have rest := StepsMeet.of_append inside ran
    exact overdue.writes_leave (by omega) rest

end Runs

end Kvmulate.Floppy
