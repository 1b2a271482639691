import Kvmulate.Floppy.Controller

/-!
# The machine behind the handshake

What a driver may rely on: the controller is idle, gathers the bytes of one
command, or has results to deliver.  The machine knows nothing of the FIFO,
its index or the status bits.
-/

namespace Kvmulate.Floppy

open DeviceLib

/-- The implemented commands. -/
inductive Command where
  | readData
  | recalibrate
  | senseInterrupt
  | readId
  | seek
deriving DecidableEq, Repr

/-- The command that a first byte selects. -/
def commandOf (first : Uint8) : Option Command :=
  let cmd := first &&& 0xF
  if cmd = cmdReadData then some .readData
  else if cmd = cmdRecalibrate then some .recalibrate
  else if cmd = cmdSenseInterrupt then some .senseInterrupt
  else if cmd = cmdReadId then some .readId
  else if cmd = cmdSeek then some .seek
  else none

/-- The number of bytes that make up a command. -/
def Command.length : Command → Nat
  | .readData => 9
  | .recalibrate => 2
  | .senseInterrupt => 1
  | .readId => 2
  | .seek => 3

/-- The bytes of one command, neither more nor fewer. -/
def Complete (bytes : List Uint8) : Prop :=
  ∃ command first params, bytes = first :: params ∧
    commandOf first = some command ∧ bytes.length = command.length

inductive Phase where
  | idle
  | command (first : Uint8) (params : List Uint8)
  | result (next : Uint8) (rest : List Uint8)
deriving DecidableEq, Repr

def Phase.ofResults : List Uint8 → Phase
  | [] => .idle
  | next :: rest => .result next rest

/-- The commands executed so far, each with its bytes, and the result bytes
delivered. -/
structure Machine where
  phase : Phase
  executed : List (List Uint8)
  delivered : List Uint8

/-! ## The position of the head -/

def cylinderAfter (cylinder : Uint8) : List Uint8 → Uint8
  | [] => cylinder
  | first :: params =>
      match commandOf first with
      | some .readData => params.getD 1 0
      | some .recalibrate => 0
      | some .seek => params.getD 1 0
      | _ => cylinder

/-- The cylinder of the last command that moved the head. -/
def cylinder (executed : List (List Uint8)) : Uint8 :=
  executed.foldl cylinderAfter 0

def headAfter (head : Uint8) : List Uint8 → Uint8
  | [] => head
  | first :: params =>
      match commandOf first with
      | some .readData => params.getD 2 0
      | some .seek => params.getD 0 0 >>> 2
      | _ => head

def head (executed : List (List Uint8)) : Uint8 :=
  executed.foldl headAfter 0

/-! ## Transitions -/

/-- The results of a command, the last one of `executed`. -/
def Command.results (executed : List (List Uint8)) :
    Command → List Uint8
  | .readData => [0, 0, 0, cylinder executed, head executed, 1, 2]
  | .recalibrate => []
  | .senseInterrupt => [0, cylinder executed]
  | .readId => [0, 0, 0, cylinder executed, head executed, 1, 2]
  | .seek => []

namespace Machine

def start : Machine := ⟨.idle, [], []⟩

def execute (machine : Machine) (command : Command)
    (bytes : List Uint8) : Machine :=
  let executed := machine.executed ++ [bytes]
  { machine with
    executed := executed
    phase := Phase.ofResults (command.results executed) }

/-- The bytes of a command up to now; the last one executes it. -/
def gather (machine : Machine) (first : Uint8) (params : List Uint8) :
    Machine :=
  match commandOf first with
  | none => machine
  | some command =>
      if params.length + 1 < command.length then
        { machine with phase := .command first params }
      else machine.execute command (first :: params)

def write (machine : Machine) (val : Uint8) : Machine :=
  match machine.phase with
  | .idle => machine.gather val []
  | .command first params => machine.gather first (params ++ [val])
  | .result _ _ => machine

def read (machine : Machine) : Machine :=
  match machine.phase with
  | .result next rest =>
      { machine with
        phase := Phase.ofResults rest
        delivered := machine.delivered ++ [next] }
  | _ => machine

/-- A reset cuts off the command or its results. -/
def reset (machine : Machine) : Machine :=
  { machine with phase := .idle }

def after (machine : Machine) : FloppyStep → Machine
  | .outb port val =>
      if port = regDigitalOut then
        if val &&& dorNReset = 0 then machine.reset else machine
      else if port = regDataFifo then machine.write val
      else machine
  | .inb port =>
      if port = regDataFifo then machine.read else machine
  | .program _ => machine

/-! Only reads deliver. -/

theorem delivered_gather (machine : Machine) (first : Uint8)
    (params : List Uint8) :
    (machine.gather first params).delivered = machine.delivered := by
  unfold gather
  cases commandOf first with
  | none =>
      rfl
  | some command =>
      simp only
      by_cases more : params.length + 1 < command.length
      · rw [if_pos more]
      · rw [if_neg more]
        rfl

theorem delivered_write (machine : Machine) (val : Uint8) :
    (machine.write val).delivered = machine.delivered := by
  unfold write
  cases machine.phase with
  | idle => exact machine.delivered_gather val []
  | command first params =>
      exact machine.delivered_gather first (params ++ [val])
  | result next rest => rfl

theorem delivered_after_outb (machine : Machine) (port : Uint16)
    (val : Uint8) :
    (machine.after (.outb port val)).delivered = machine.delivered := by
  simp only [after]
  by_cases digitalOut : port = regDigitalOut
  · rw [if_pos digitalOut]
    by_cases resets : val &&& dorNReset = 0
    · rw [if_pos resets]
      rfl
    · rw [if_neg resets]
  · rw [if_neg digitalOut]
    by_cases fifo : port = regDataFifo
    · rw [if_pos fifo]
      exact machine.delivered_write val
    · rw [if_neg fifo]

/-- The next byte is the last one of a READ DATA command. -/
def CompletesReadData (machine : Machine) : Prop :=
  match machine.phase with
  | .command first params =>
      commandOf first = some .readData ∧ params.length = 7
  | _ => False

/-- The next byte starts an implemented command or continues one, with
parameters that pass the assertions. -/
def Asks (machine : Machine) (dma : Dma) (val : Uint8) : Prop :=
  match machine.phase with
  | .idle => commandOf val ≠ none
  | .command first params =>
      commandOf first = some .readData → params.length = 7 →
        (first :: params).getD 6 0 ≤ 128 ∧ dma.destOff ≤ 0xFFFFF
  | .result _ _ => True

/-- The handshake as the machine sees it: a byte is written unless results
remain, and read only then. -/
def Accepts (machine : Machine) (dma : Dma) : FloppyStep → Prop
  | .outb port val =>
      port = regDigitalOut ∨ port = regConfigurationControl ∨
        port = regDataFifo ∧
          (∀ next rest, machine.phase ≠ .result next rest) ∧
            machine.Asks dma val
  | .inb port =>
      port = regMainStatus ∨ port = regDigitalOut ∨
        port = regDataFifo ∧ ∃ next rest, machine.phase = .result next rest
  | .program _ => True

def afterAll (machine : Machine) (inputs : List FloppyInput) : Machine :=
  inputs.foldl (fun reached input => reached.after input.2) machine

end Machine

/-- The programming of the DMA controller after a step. -/
def dmaAfter (dma : Dma) : FloppyStep → Dma
  | .program next => next
  | _ => dma

def dmaAfterAll (dma : Dma) (inputs : List FloppyInput) : Dma :=
  inputs.foldl (fun reached input => dmaAfter reached input.2) dma

/-- The machine accepts all steps, one after the other. -/
def AcceptsAll (machine : Machine) (dma : Dma) : List FloppyInput → Prop
  | [] => True
  | input :: rest =>
      machine.Accepts dma input.2 ∧
        AcceptsAll (machine.after input.2) (dmaAfter dma input.2) rest

/-! ## What a driver sees -/

/-- The machine that the driver's accesses lead to, and the bytes that it has
read from the FIFO. -/
structure DriverHistory where
  machine : Machine
  read : List Uint8

namespace DriverHistory

def start : DriverHistory := ⟨Machine.start, []⟩

def observe (_ : FloppySystem) (input : FloppyInput)
    (response : Option Uint8) (history : DriverHistory) :
    DriverHistory where
  machine := history.machine.after input.2
  read :=
    if input.2 = .inb regDataFifo then
      history.read ++ response.toList
    else history.read

theorem observe_outb (sys : FloppySystem) (host : HostCalls)
    (port : Uint16) (val : Uint8) (response : Option Uint8)
    (history : DriverHistory) :
    observe sys (host, .outb port val) response history =
      ⟨history.machine.after (.outb port val), history.read⟩ := by
  unfold observe
  rw [if_neg fun same => nomatch same]

end DriverHistory

abbrev FloppyState := FloppySystem × DriverHistory

abbrev floppyObserved : Call FloppyState FloppyInput (Option Uint8) :=
  observed floppyStep DriverHistory.observe

/-- The bit of MSR is set. -/
def Flag (fdc : Fdc) (bit : Uint8) : Prop :=
  fdc.msr &&& bit ≠ 0

instance (fdc : Fdc) (bit : Uint8) : Decidable (Flag fdc bit) :=
  inferInstanceAs (Decidable (_ ≠ _))

/-- The handshake, which goes by MSR. -/
def Obeys (state : FloppyState) (input : FloppyInput) : Prop :=
  match input.2 with
  | .outb port val =>
      port = regDigitalOut ∨ port = regConfigurationControl ∨
        port = regDataFifo ∧ Flag state.1.fdc msrRqm ∧
          ¬ Flag state.1.fdc msrDio ∧
            state.2.machine.Asks state.1.dma val
  | .inb port =>
      port = regMainStatus ∨ port = regDigitalOut ∨
        port = regDataFifo ∧ Flag state.1.fdc msrRqm ∧
          Flag state.1.fdc msrDio
  | .program _ => True

/-- The controller behaves as the machine does. -/
structure Simulates (state : FloppyState) : Prop where
  executed : state.1.executed = state.2.machine.executed
  complete : ∀ bytes ∈ state.1.executed, Complete bytes
  delivered : state.2.read = state.2.machine.delivered
  ready : Flag state.1.fdc msrRqm
  dio : Flag state.1.fdc msrDio ↔
    ∃ next rest, state.2.machine.phase = .result next rest

/-- A READ DATA command finds an image, and the low memory below all that the
transfer touches: the window that the DMA controller is programmed for, and the
five bytes of the log line. -/
def Contained (state : FloppyState) (input : FloppyInput) : Prop :=
  match input.2 with
  | .outb port _ =>
      port = regDataFifo → state.2.machine.CompletesReadData →
        state.1.fdc.image ≠ none ∧
          InLowMem state.1.dma.destOff state.1.dma.touched
  | _ => True

end Kvmulate.Floppy
