import Kvmulate.Floppy.Machine
import Mathlib.Tactic.IntervalCases

/-!
# The controller simulates the machine

`Related` says where the phase of the machine is in the registers: in the
index and the length of the FIFO, the bytes in front of the index or behind
it, and the DIO bit.
-/

namespace Kvmulate.Floppy

open DeviceLib

/-! ## The relation -/

/-- What holds in every phase. -/
structure Settled (sys : FloppySystem) (machine : Machine) : Prop where
  executed : sys.executed = machine.executed
  complete : ∀ bytes ∈ sys.executed, Complete bytes
  ready : Flag sys.fdc msrRqm
  sect : sys.fdc.pos.sect = 1
  st : sys.fdc.st = Vector.replicate 3 0
  cyl : sys.fdc.pos.cyl = cylinder machine.executed
  head : sys.fdc.pos.head = head machine.executed

/-- The first bytes of a command are in the FIFO. -/
structure Gathered (fdc : Fdc) (command : Command) (first : Uint8)
    (params : List Uint8) : Prop where
  selects : commandOf first = some command
  index : fdc.fifondx = params.length + 1
  length : fdc.fifolen = command.length
  bytes : fdc.fifo.toList.take (params.length + 1) = first :: params
  dio : ¬ Flag fdc msrDio

def PhaseMatches (fdc : Fdc) : Phase → Prop
  | .idle => fdc.fifondx = 0 ∧ ¬ Flag fdc msrDio
  | .command first params =>
      ∃ command, Gathered fdc command first params ∧
        params.length + 1 < command.length
  | .result next rest =>
      ∃ index : Nat, fdc.fifondx = index ∧
        fdc.fifolen = index + (rest.length + 1) ∧
          Flag fdc msrDio ∧
            (fdc.fifo.toList.drop index).take (rest.length + 1) =
              next :: rest

theorem PhaseMatches.of_same {fdc next : Fdc} {phase : Phase}
    (found : PhaseMatches fdc phase) (msr : next.msr = fdc.msr)
    (fifo : next.fifo = fdc.fifo) (fifondx : next.fifondx = fdc.fifondx)
    (fifolen : next.fifolen = fdc.fifolen) :
    PhaseMatches next phase := by
  have flags (bit : Uint8) : Flag next bit ↔ Flag fdc bit := by
    unfold Flag
    rw [msr]
  cases phase with
  | idle =>
      exact ⟨fifondx.trans found.1, fun dio => found.2 ((flags _).mp dio)⟩
  | command first params =>
      obtain ⟨command, gathered, more⟩ := found
      refine ⟨command, ⟨gathered.selects, fifondx.trans gathered.index,
        fifolen.trans gathered.length, ?_,
        fun dio => gathered.dio ((flags _).mp dio)⟩, more⟩
      rw [fifo]
      exact gathered.bytes
  | result byte rest =>
      obtain ⟨index, ndx, len, dio, waiting⟩ := found
      refine ⟨index, fifondx.trans ndx, fifolen.trans len,
        (flags _).mpr dio, ?_⟩
      rw [fifo]
      exact waiting

structure Related (state : FloppyState) : Prop where
  settled : Settled state.1 state.2.machine
  phase : PhaseMatches state.1.fdc state.2.machine.phase
  delivered : state.2.read = state.2.machine.delivered

theorem simulates_of_related {state : FloppyState}
    (related : Related state) : Simulates state where
  executed := related.settled.executed
  complete := related.settled.complete
  delivered := related.delivered
  ready := related.settled.ready
  dio := by
    have found := related.phase
    cases shown : state.2.machine.phase with
    | idle =>
        rw [shown] at found
        simp [found.2]
    | command first params =>
        rw [shown] at found
        obtain ⟨command, gathered, -⟩ := found
        simp [gathered.dio]
    | result next rest =>
        rw [shown] at found
        obtain ⟨index, -, -, dio, -⟩ := found
        simp [dio]

/-! ## The position of the head -/

theorem cylinder_append (executed : List (List Uint8))
    (bytes : List Uint8) :
    cylinder (executed ++ [bytes]) =
      cylinderAfter (cylinder executed) bytes := by
  unfold cylinder
  rw [List.foldl_append]
  rfl

theorem head_append (executed : List (List Uint8))
    (bytes : List Uint8) :
    head (executed ++ [bytes]) = headAfter (head executed) bytes := by
  unfold head
  rw [List.foldl_append]
  rfl

/-! ## Writing a byte -/

section Write

variable {host : HostCalls} {sys : FloppySystem} {fdc : Fdc}
variable {command : Command} {first val : Uint8} {params : List Uint8}

/-- The low bits of the first byte of a command. -/
def Command.code : Command → Uint8
  | .readData => cmdReadData
  | .recalibrate => cmdRecalibrate
  | .senseInterrupt => cmdSenseInterrupt
  | .readId => cmdReadId
  | .seek => cmdSeek

theorem code_of_commandOf (selects : commandOf first = some command) :
    first &&& 0xF = command.code := by
  unfold commandOf at selects
  simp only at selects
  by_cases isReadData : first &&& 0xF = cmdReadData
  · rw [if_pos isReadData] at selects
    cases selects
    exact isReadData
  rw [if_neg isReadData] at selects
  by_cases isRecalibrate : first &&& 0xF = cmdRecalibrate
  · rw [if_pos isRecalibrate] at selects
    cases selects
    exact isRecalibrate
  rw [if_neg isRecalibrate] at selects
  by_cases isSense : first &&& 0xF = cmdSenseInterrupt
  · rw [if_pos isSense] at selects
    cases selects
    exact isSense
  rw [if_neg isSense] at selects
  by_cases isReadId : first &&& 0xF = cmdReadId
  · rw [if_pos isReadId] at selects
    cases selects
    exact isReadId
  rw [if_neg isReadId] at selects
  by_cases isSeek : first &&& 0xF = cmdSeek
  · rw [if_pos isSeek] at selects
    cases selects
    exact isSeek
  · rw [if_neg isSeek] at selects
    cases selects

theorem commandLength_of (selects : commandOf val = some command) :
    commandLength val = .ok (command.length : Int) := by
  unfold commandLength
  rw [code_of_commandOf selects]
  cases command with
  | readData => rfl
  | recalibrate => rfl
  | senseInterrupt => rfl
  | readId => rfl
  | seek => rfl

/-- A byte that is written to the FIFO changes nothing else. -/
structure SameDrive (fdc next : Fdc) : Prop where
  pos : next.pos = fdc.pos
  st : next.st = fdc.st
  image : next.image = fdc.image
  ready : Flag fdc msrRqm → Flag next msrRqm

theorem SameDrive.refl (fdc : Fdc) : SameDrive fdc fdc :=
  ⟨rfl, rfl, rfl, id⟩

theorem busy_ready : ∀ msr : Uint8,
    (msr ||| msrCb) &&& msrRqm = msr &&& msrRqm := by
  decide

theorem busy_dio : ∀ msr : Uint8,
    (msr ||| msrCb) &&& msrDio = msr &&& msrDio := by
  decide

theorem Command.length_le (command : Command) :
    command.length ≤ 9 := by
  cases command with
  | readData => decide
  | recalibrate => decide
  | senseInterrupt => decide
  | readId => decide
  | seek => decide

theorem Command.length_pos (command : Command) :
    1 ≤ command.length := by
  cases command with
  | readData => decide
  | recalibrate => decide
  | senseInterrupt => decide
  | readId => decide
  | seek => decide

/-- Execute a command that is complete. -/
def proceed (host : HostCalls) (sys : FloppySystem) (command : Command)
    (count : Nat) : Outcome FloppySystem :=
  if count < command.length then pure sys else doExecuteCommand host sys

theorem floppyStep_of_writeFifo {after : FloppySystem}
    (wrote : writeFifo host sys val = .ok after) :
    floppyStep sys (host, .outb regDataFifo val) = .ok (none, after) := by
  have served : floppyOutb host sys regDataFifo val = .ok after := by
    unfold floppyOutb
    rw [if_neg (by decide : ¬ regDataFifo = regDigitalOut), if_pos rfl]
    exact wrote
  change (floppyOutb host sys regDataFifo val >>= fun done =>
    pure (none, done)) = _
  rw [served]
  rfl

/-- The first byte of a command. -/
theorem writeFifo_idle (found : PhaseMatches sys.fdc .idle)
    (selects : commandOf val = some command) :
    ∃ next, SameDrive sys.fdc next ∧ Gathered next command val [] ∧
      writeFifo host sys val =
        proceed host { sys with fdc := next } command 1 := by
  obtain ⟨index, dio⟩ := found
  obtain ⟨fifo, stored⟩ :
      ∃ fifo, store sys.fdc.fifo 0 val = .ok fifo :=
    ⟨_, store_of_indexes ⟨Int.le_refl 0, by decide⟩⟩
  have bytes := take_of_store stored
  refine ⟨
    { sys.fdc with
      fifolen := command.length
      msr := sys.fdc.msr ||| msrCb
      fifo := fifo
      fifondx := 1 }, ⟨rfl, rfl, rfl, ?_⟩,
    ⟨selects, rfl, rfl, bytes, ?_⟩, ?_⟩
  · intro ready
    unfold Flag
    rw [busy_ready]
    exact ready
  · unfold Flag
    rw [busy_dio]
    exact dio
  · unfold writeFifo beginCommand proceed
    simp only [index, if_true, commandLength_of selects,
      Outcome.ok_bind, Outcome.pure_eq_ok, stored]
    have positive := command.length_pos
    by_cases full : 1 < command.length
    · rw [if_pos full, if_neg (by omega)]
      rfl
    · rw [if_neg full, if_pos (by omega)]
      rfl

/-- A further byte of a command. -/
theorem writeFifo_command (gathered : Gathered sys.fdc command first params)
    (open' : params.length + 1 < command.length) :
    ∃ next, SameDrive sys.fdc next ∧
      Gathered next command first (params ++ [val]) ∧
        writeFifo host sys val =
          proceed host { sys with fdc := next } command
            (params.length + 2) := by
  have short := command.length_le
  have index := gathered.index
  have length := gathered.length
  obtain ⟨fifo, stored⟩ :
      ∃ fifo, store sys.fdc.fifo sys.fdc.fifondx val = .ok fifo :=
    ⟨_, store_of_indexes ⟨by omega, by omega⟩⟩
  have bytes := take_of_store stored
  have before : sys.fdc.fifondx.toNat = params.length + 1 := by omega
  have after : (sys.fdc.fifondx + 1).toNat = params.length + 2 := by omega
  rw [before, after, gathered.bytes] at bytes
  refine ⟨
    { sys.fdc with fifo := fifo, fifondx := sys.fdc.fifondx + 1 },
    ⟨rfl, rfl, rfl, id⟩, ⟨gathered.selects, ?_, length, ?_, gathered.dio⟩,
    ?_⟩
  · simp only [List.length_append, List.length_singleton, index]
    push_cast
    omega
  · rw [List.length_append, List.length_singleton]
    exact bytes
  · have begun : ¬ sys.fdc.fifondx = 0 := by omega
    unfold writeFifo beginCommand proceed
    simp only [if_neg begun, Outcome.pure_eq_ok, Outcome.ok_bind, stored]
    by_cases full : params.length + 2 < command.length
    · rw [if_pos full, if_neg (by omega)]
    · rw [if_neg full, if_pos (by omega)]

end Write

/-! ## Executing a command -/

section Execute

variable {host : HostCalls} {sys after : FloppySystem} {fdc : Fdc}
variable {command : Command} {first : Uint8} {params : List Uint8}
variable {machine : Machine}

/-- A byte of the FIFO. -/
def Fdc.byte (fdc : Fdc) (index : Nat) : Uint8 :=
  fdc.fifo.toList.getD index 0

theorem Fdc.getElem_fifo (fdc : Fdc) {index : Nat} (high : index < 522) :
    fdc.fifo[index] = fdc.byte index := by
  have bound : index < fdc.fifo.toList.length := by
    rw [Vector.length_toList]
    exact high
  rw [Fdc.byte, List.getD_eq_getElem _ _ bound, Vector.getElem_toList]

/-- A byte of the command. -/
theorem Gathered.byte (gathered : Gathered fdc command first params)
    {index : Nat} (low : index < params.length + 1) :
    fdc.byte index = (first :: params).getD index 0 := by
  rw [← gathered.bytes, Fdc.byte, List.getD_eq_getElem?_getD,
    List.getD_eq_getElem?_getD, List.getElem?_take_of_lt low]

/-- The branch of `doExecuteCommand`. -/
def Command.body (host : HostCalls) (sys : FloppySystem) :
    Command → Outcome FloppySystem
  | .readData => Floppy.readData host sys
  | .recalibrate => pure { sys with fdc := Floppy.recalibrate sys.fdc }
  | .senseInterrupt =>
      pure { sys with fdc := Floppy.senseInterrupt sys.fdc }
  | .readId => pure { sys with fdc := sys.fdc.answerPosition }
  | .seek => pure { sys with fdc := Floppy.seek sys.fdc }

theorem doExecuteCommand_of_selects
    (selects : commandOf (sys.fdc.byte 0) = some command) :
    doExecuteCommand host sys =
      command.body host
        { sys with
          executed := sys.executed ++
            [sys.fdc.fifo.toList.take sys.fdc.fifondx.toNat] } := by
  have code := code_of_commandOf selects
  unfold doExecuteCommand
  simp only [sys.fdc.getElem_fifo (by decide : 0 < 522), code]
  cases command with
  | readData => rfl
  | recalibrate => rfl
  | senseInterrupt => rfl
  | readId => rfl
  | seek => rfl

/-- A first byte that selects no command has none of the codes. -/
theorem code_ne_of_commandOf_eq_none : ∀ first : Uint8,
    commandOf first = none →
      first &&& 0xF ≠ cmdReadData ∧ first &&& 0xF ≠ cmdRecalibrate ∧
        first &&& 0xF ≠ cmdSenseInterrupt ∧
          first &&& 0xF ≠ cmdReadId ∧ first &&& 0xF ≠ cmdSeek := by
  decide

/-- `doExecuteCommand` has no default case. -/
theorem doExecuteCommand_of_none
    (unselected : commandOf (sys.fdc.byte 0) = none) :
    doExecuteCommand host sys =
      .ok { sys with
        executed := sys.executed ++
          [sys.fdc.fifo.toList.take sys.fdc.fifondx.toNat] } := by
  obtain ⟨notReadData, notRecalibrate, notSense, notReadId, notSeek⟩ :=
    code_ne_of_commandOf_eq_none _ unselected
  unfold doExecuteCommand
  simp only [sys.fdc.getElem_fifo (by decide : 0 < 522)]
  rw [if_neg notReadData, if_neg notRecalibrate, if_neg notSense,
    if_neg notReadId, if_neg notSeek]
  rfl

theorem doExecuteCommand_of
    (gathered : Gathered sys.fdc command first params) :
    doExecuteCommand host sys =
      command.body host
        { sys with executed := sys.executed ++ [first :: params] } := by
  have byte : sys.fdc.byte 0 = first :=
    gathered.byte (Nat.zero_lt_succ _)
  have index : sys.fdc.fifondx.toNat = params.length + 1 := by
    rw [gathered.index]
    rfl
  have selects : commandOf (sys.fdc.byte 0) = some command := by
    rw [byte]
    exact gathered.selects
  rw [doExecuteCommand_of_selects selects, index, gathered.bytes]

/-- The results of a command start the FIFO. -/
theorem phaseMatches_ofResults {bytes : List Uint8}
    (index : fdc.fifondx = 0) (length : fdc.fifolen = bytes.length)
    (some : bytes ≠ []) (dio : Flag fdc msrDio)
    (fifo : fdc.fifo.toList.take bytes.length = bytes) :
    PhaseMatches fdc (Phase.ofResults bytes) := by
  cases bytes with
  | nil =>
      exact absurd rfl some
  | cons next rest =>
      refine ⟨0, index, ?_, dio, fifo⟩
      rw [length, List.length_cons]
      omega

/-- The results of READ DATA and READ ID. -/
theorem answerPosition_results (fdc : Fdc) :
    fdc.answerPosition.fifo.toList.take 7 =
      fdc.st.toList ++ [fdc.pos.cyl, fdc.pos.head, fdc.pos.sect, 2] := by
  apply List.ext_getElem
  · simp
  · intro index bound _
    have small : index < 7 := by simpa using bound
    interval_cases index <;> simp [Fdc.answerPosition]

theorem answerPosition_fifo (st : fdc.st = Vector.replicate 3 0) :
    fdc.answerPosition.fifo.toList.take 7 =
      [0, 0, 0, fdc.pos.cyl, fdc.pos.head, fdc.pos.sect, 2] := by
  rw [answerPosition_results, st]
  rfl

theorem senseInterrupt_fifo (st : fdc.st = Vector.replicate 3 0) :
    (senseInterrupt fdc).fifo.toList.take 2 = [0, fdc.pos.cyl] := by
  apply List.ext_getElem
  · simp
  · intro index bound _
    have small : index < 2 := by simpa using bound
    interval_cases index <;> simp [senseInterrupt, st]

/-- The results of READ DATA and READ ID. -/
theorem phaseMatches_answerPosition {executed : List (List Uint8)}
    (sect : fdc.pos.sect = 1) (st : fdc.st = Vector.replicate 3 0)
    (cyl : fdc.pos.cyl = cylinder executed)
    (head : fdc.pos.head = Floppy.head executed) :
    PhaseMatches fdc.answerPosition
      (Phase.ofResults
        [0, 0, 0, cylinder executed, Floppy.head executed, 1, 2]) := by
  refine phaseMatches_ofResults rfl rfl (List.cons_ne_nil _ _)
    (by decide : (msrRqm ||| msrDio) &&& msrDio ≠ 0) ?_
  have bytes := answerPosition_fifo st
  rw [sect, cyl, head] at bytes
  exact bytes

/-! ### READ DATA -/

theorem exists_readImage_iff {lba : Uint32} {sectors : Uint8}
    (few : sectors ≤ 128) :
    (∃ next, readImage host fdc lba sectors = .ok next) ↔
      fdc.image ≠ none := by
  have count : sectors.toNat ≤ 128 := few
  unfold readImage
  cases shown : fdc.image with
  | none =>
      simp
  | some file =>
      have delivered :=
        (file.seek host (lba * 512).toNat).read_length_le host
          (512 * sectors.toNat)
      obtain ⟨buffer, filled⟩ :=
        @exists_storeList_of_le _ _ fdc.pDMABuffer 0
          ((file.seek host (lba * 512).toNat).read host
            (512 * sectors.toNat)).1
          (by unfold dmaBufferSize; omega)
      simp only [filled, Outcome.ok_bind, ne_eq, reduceCtorEq,
        not_false_eq_true, iff_true]
      exact ⟨_, rfl⟩

/-- The transfer from the image leaves the position alone. -/
theorem sameDrive_readImage {next : Fdc} {lba : Uint32} {sectors : Uint8}
    (filled : readImage host fdc lba sectors = .ok next) :
    next.pos = fdc.pos ∧ next.st = fdc.st := by
  unfold readImage at filled
  cases shown : fdc.image with
  | none =>
      rw [shown] at filled
      cases filled
  | some file =>
      rw [shown] at filled
      obtain ⟨buffer, -, done⟩ := Outcome.bind_eq_ok_iff.mp filled
      cases done
      exact ⟨rfl, rfl⟩

/-- With few enough sectors, READ DATA returns exactly when there is an image
and a destination. -/
theorem exists_readData_iff (few : sys.fdc.byte 6 ≤ 128) :
    (∃ after, readData host sys = .ok after) ↔
      sys.fdc.image ≠ none ∧
        InLowMem sys.dma.destOff sys.dma.touched := by
  rw [← sys.fdc.getElem_fifo (by decide : 6 < 522)] at few
  have image :=
    @exists_readImage_iff host
      { sys.fdc with
        pos := { sys.fdc.pos with
          cyl := sys.fdc.fifo[2], head := sys.fdc.fifo[3] } }
      (chsToLba sys.fdc.fifo[2] sys.fdc.fifo[3] sys.fdc.fifo[4]) _ few
  unfold readData
  simp only [Outcome.assert_of few, Outcome.ok_bind]
  constructor
  · rintro ⟨after, done⟩
    obtain ⟨filled, wasFilled, done⟩ := Outcome.bind_eq_ok_iff.mp done
    obtain ⟨lowMem, transferred, -⟩ := Outcome.bind_eq_ok_iff.mp done
    exact ⟨image.mp ⟨filled, wasFilled⟩,
      exists_dmaTransfer_iff.mp ⟨lowMem, transferred⟩⟩
  · rintro ⟨present, inside⟩
    obtain ⟨filled, wasFilled⟩ := image.mpr present
    obtain ⟨lowMem, transferred⟩ :=
      (@exists_dmaTransfer_iff sys.dma sys.lowMem filled.pDMABuffer
        (sys.fdc.fifo[6].toNat * 512)).mpr inside
    rw [wasFilled, Outcome.ok_bind, transferred, Outcome.ok_bind]
    exact ⟨_, rfl⟩

/-- What READ DATA leaves in the controller. -/
theorem readData_fdc (done : readData host sys = .ok after) :
    ∃ filled : Fdc, after.fdc = filled.answerPosition ∧
      filled.pos =
        { sys.fdc.pos with
          cyl := sys.fdc.byte 2, head := sys.fdc.byte 3 } ∧
        filled.st = sys.fdc.st ∧ after.executed = sys.executed := by
  unfold readData at done
  obtain ⟨_, -, done⟩ := Outcome.bind_eq_ok_iff.mp done
  obtain ⟨filled, wasFilled, done⟩ := Outcome.bind_eq_ok_iff.mp done
  obtain ⟨lowMem, -, done⟩ := Outcome.bind_eq_ok_iff.mp done
  obtain ⟨pos, st⟩ := sameDrive_readImage wasFilled
  rw [sys.fdc.getElem_fifo (by decide : 2 < 522),
    sys.fdc.getElem_fifo (by decide : 3 < 522)] at pos
  cases done
  exact ⟨filled, rfl, pos, st, rfl⟩

/-! ### All commands -/

theorem Settled.of_same {reached : Machine}
    (settled : Settled sys machine) (log : after.executed = sys.executed)
    (still : reached.executed = machine.executed)
    (same : SameDrive sys.fdc after.fdc) : Settled after reached where
  executed := by
    rw [log, still]
    exact settled.executed
  complete := by
    rw [log]
    exact settled.complete
  ready := same.ready settled.ready
  sect := by
    rw [same.pos]
    exact settled.sect
  st := by
    rw [same.st]
    exact settled.st
  cyl := by
    rw [same.pos, still]
    exact settled.cyl
  head := by
    rw [same.pos, still]
    exact settled.head

theorem Settled.log (settled : Settled sys machine) (bytes : List Uint8) :
    sys.executed ++ [bytes] = machine.executed ++ [bytes] := by
  rw [settled.executed]

/-- The log stays one of complete commands. -/
theorem Settled.complete_append (settled : Settled sys machine)
    (gathered : Gathered sys.fdc command first params)
    (complete : params.length + 1 = command.length) :
    ∀ bytes ∈ sys.executed ++ [first :: params], Complete bytes := by
  intro bytes mem
  rcases List.mem_append.mp mem with before | new
  · exact settled.complete bytes before
  · rw [List.mem_singleton.mp new]
    exact ⟨command, first, params, rfl, gathered.selects, complete⟩

/-- READ DATA moves to the cylinder and the head that it names. -/
theorem related_readData (settled : Settled sys machine)
    (gathered : Gathered sys.fdc .readData first params)
    (complete : params.length + 1 = Command.readData.length)
    (done : Command.readData.body host
      { sys with executed := sys.executed ++ [first :: params] } =
        .ok after) :
    Settled after (machine.execute .readData (first :: params)) ∧
      PhaseMatches after.fdc
        (machine.execute .readData (first :: params)).phase := by
  have selects := gathered.selects
  have length : params.length = 8 := Nat.succ.inj complete
  obtain ⟨filled, fdc, pos, st, executed⟩ := readData_fdc done
  have cyl :
      filled.pos.cyl =
        cylinder (machine.executed ++ [first :: params]) := by
    have byte := @Gathered.byte _ _ _ _ gathered 2 (by omega)
    rw [cylinder_append, pos]
    simp only [cylinderAfter, selects]
    exact byte
  have head :
      filled.pos.head =
        Floppy.head (machine.executed ++ [first :: params]) := by
    have byte := @Gathered.byte _ _ _ _ gathered 3 (by omega)
    rw [head_append, pos]
    simp only [headAfter, selects]
    exact byte
  have sect : filled.pos.sect = 1 := by
    rw [pos]
    exact settled.sect
  have zeros : filled.st = Vector.replicate 3 0 := by
    rw [st]
    exact settled.st
  refine ⟨⟨executed.trans (settled.log _), ?_, ?_, ?_, ?_, ?_, ?_⟩, ?_⟩
  · rw [executed]
    exact settled.complete_append gathered complete
  · rw [fdc]
    exact (by decide : (msrRqm ||| msrDio) &&& msrRqm ≠ 0)
  · rw [fdc]
    exact sect
  · rw [fdc]
    exact zeros
  · rw [fdc]
    exact cyl
  · rw [fdc]
    exact head
  · rw [fdc]
    exact phaseMatches_answerPosition sect zeros cyl head

/-- A complete command is executed, and its results are ready. -/
theorem related_body (settled : Settled sys machine)
    (gathered : Gathered sys.fdc command first params)
    (complete : params.length + 1 = command.length)
    (done : command.body host
      { sys with executed := sys.executed ++ [first :: params] } =
        .ok after) :
    Settled after (machine.execute command (first :: params)) ∧
      PhaseMatches after.fdc
        (machine.execute command (first :: params)).phase := by
  have selects := gathered.selects
  have moved := cylinder_append machine.executed (first :: params)
  have turned := head_append machine.executed (first :: params)
  have log := settled.log (first :: params)
  have whole := settled.complete_append gathered complete
  cases command with
  | readData =>
      exact related_readData settled gathered complete done
  | recalibrate =>
      cases done
      refine ⟨⟨log, whole, (by decide : msrRqm &&& msrRqm ≠ 0), settled.sect,
        settled.st, ?_, ?_⟩, rfl,
        (by decide : ¬ (msrRqm &&& msrDio ≠ 0))⟩
      · simp only [Machine.execute, moved, cylinderAfter, selects]
        rfl
      · simp only [Machine.execute, turned, headAfter, selects]
        exact settled.head
  | senseInterrupt =>
      cases done
      have cyl :
          sys.fdc.pos.cyl =
            cylinder (machine.executed ++ [first :: params]) := by
        simp only [moved, cylinderAfter, selects]
        exact settled.cyl
      refine ⟨⟨log, whole, (by decide : (msrRqm ||| msrDio) &&& msrRqm ≠ 0),
        settled.sect, settled.st, cyl, ?_⟩, ?_⟩
      · simp only [Machine.execute, turned, headAfter, selects]
        exact settled.head
      · refine phaseMatches_ofResults rfl rfl (List.cons_ne_nil _ _)
          (by decide : (msrRqm ||| msrDio) &&& msrDio ≠ 0) ?_
        have bytes := senseInterrupt_fifo settled.st
        rw [cyl] at bytes
        exact bytes
  | readId =>
      cases done
      have cyl :
          sys.fdc.pos.cyl =
            cylinder (machine.executed ++ [first :: params]) := by
        simp only [moved, cylinderAfter, selects]
        exact settled.cyl
      have head :
          sys.fdc.pos.head =
            Floppy.head (machine.executed ++ [first :: params]) := by
        simp only [turned, headAfter, selects]
        exact settled.head
      exact ⟨⟨log, whole, (by decide : (msrRqm ||| msrDio) &&& msrRqm ≠ 0),
        settled.sect, settled.st, cyl, head⟩,
        phaseMatches_answerPosition settled.sect settled.st cyl head⟩
  | seek =>
      have length : params.length = 2 := Nat.succ.inj complete
      cases done
      refine ⟨⟨log, whole, (by decide : (0xA0 : Uint8) &&& msrRqm ≠ 0),
        settled.sect, settled.st, ?_, ?_⟩, rfl,
        (by decide : ¬ ((0xA0 : Uint8) &&& msrDio ≠ 0))⟩
      · have byte := @Gathered.byte _ _ _ _ gathered 2 (by omega)
        rw [← sys.fdc.getElem_fifo (by decide : 2 < 522)] at byte
        simp only [Machine.execute, moved, cylinderAfter, selects]
        exact byte
      · have byte := @Gathered.byte _ _ _ _ gathered 1 (by omega)
        rw [← sys.fdc.getElem_fifo (by decide : 1 < 522)] at byte
        simp only [Machine.execute, turned, headAfter, selects]
        exact congrArg (fun val : Uint8 => val >>> 2) byte

/-- The bytes of a command go on being gathered, or execute it. -/
theorem related_proceed (settled : Settled sys machine)
    (gathered : Gathered sys.fdc command first params)
    (bound : params.length + 1 ≤ command.length)
    (done : proceed host sys command (params.length + 1) = .ok after) :
    Settled after (machine.gather first params) ∧
      PhaseMatches after.fdc (machine.gather first params).phase := by
  unfold proceed at done
  unfold Machine.gather
  simp only [gathered.selects]
  by_cases more : params.length + 1 < command.length
  · rw [if_pos more] at done ⊢
    cases done
    exact ⟨settled.of_same rfl rfl (SameDrive.refl _), command, gathered,
      more⟩
  · rw [if_neg more] at done ⊢
    rw [doExecuteCommand_of gathered] at done
    exact related_body settled gathered (by omega) done

/-- Only READ DATA may fail to return. -/
theorem exists_proceed_iff
    (gathered : Gathered sys.fdc command first params)
    (bound : params.length + 1 ≤ command.length)
    (few : command = .readData → params.length = 8 →
      (first :: params).getD 6 0 ≤ 128) :
    (∃ after,
        proceed host sys command (params.length + 1) = .ok after) ↔
      (command = .readData → params.length = 8 →
        sys.fdc.image ≠ none ∧
          InLowMem sys.dma.destOff sys.dma.touched) := by
  unfold proceed
  by_cases more : params.length + 1 < command.length
  · rw [if_pos more]
    refine iff_of_true ⟨sys, rfl⟩ fun isReadData length => ?_
    subst isReadData
    have nine : Command.length .readData = 9 := rfl
    omega
  · rw [if_neg more, doExecuteCommand_of gathered]
    have complete : params.length + 1 = command.length := by omega
    cases command with
    | readData =>
        have length : params.length = 8 := Nat.succ.inj complete
        have byte := @Gathered.byte _ _ _ _ gathered 6 (by omega)
        have small : sys.fdc.byte 6 ≤ 128 := by
          rw [byte]
          exact few rfl length
        have returns :=
          @exists_readData_iff host
            { sys with executed := sys.executed ++ [first :: params] }
            small
        simp only [length, forall_const]
        exact returns
    | recalibrate =>
        exact iff_of_true ⟨_, rfl⟩ fun isReadData => nomatch isReadData
    | senseInterrupt =>
        exact iff_of_true ⟨_, rfl⟩ fun isReadData => nomatch isReadData
    | readId =>
        exact iff_of_true ⟨_, rfl⟩ fun isReadData => nomatch isReadData
    | seek =>
        exact iff_of_true ⟨_, rfl⟩ fun isReadData => nomatch isReadData

end Execute

end Kvmulate.Floppy
