import Kvmulate.Types
import Kvmulate.Lib.Indexed
import Kvmulate.Lib.Run

/-!
# The keyboard controller

The functions of `devices/x86/i8042.c`.  The argument `port` is the port of
the access after `port += hdl->base`.
-/

namespace Kvmulate.Keyboard

open DeviceLib

/-- The static `regs`, with the level last given to `irq_set(1, ..)`. -/
structure KbdRegs where
  status : Uint8
  commandByte : Uint8
  bufOutput : Vector Uint8 8
  ndxOutput : Int
  cmdparams : Vector Uint8 8
  cmdparamsLeft : Int
  cmdparamsCmd : Uint8
  kbdparams : Vector Uint8 8
  kbdparamsLeft : Int
  kbdparamsCmd : Uint8
  irq1 : Bool

/-- The registers that `x86_keyboard_init` leaves: its `memset` clears the
status written before it. -/
def x86KeyboardInit : KbdRegs where
  status := 0
  commandByte := 0
  bufOutput := Vector.replicate 8 0
  ndxOutput := 0
  cmdparams := Vector.replicate 8 0
  cmdparamsLeft := 0
  cmdparamsCmd := 0
  kbdparams := Vector.replicate 8 0
  kbdparamsLeft := 0
  kbdparamsCmd := 0
  irq1 := false

/-- `regs.buf_output[0] = val; regs.ndx_output = 0; regs.status |= (1<<0)` -/
def KbdRegs.output (regs : KbdRegs) (val : Uint8) : KbdRegs :=
  { regs with
    bufOutput := regs.bufOutput.set 0 val
    ndxOutput := 0
    status := regs.status ||| 1 }

/-- The answer of the keyboard, which overwrites all of Status. -/
def KbdRegs.acknowledge (regs : KbdRegs) : KbdRegs :=
  { regs with
    bufOutput := regs.bufOutput.set 0 0xFA
    ndxOutput := 0
    status := 1 }

/-- The result of the self-test behind an answer. -/
def KbdRegs.restart (regs : KbdRegs) : KbdRegs :=
  { regs with
    bufOutput := (regs.bufOutput.set 0 0xAA).set 1 0xFA
    ndxOutput := 1
    status := 1 }

def KbdRegs.expectParam (regs : KbdRegs) (cmd : Uint8) : KbdRegs :=
  { regs with cmdparamsLeft := 1, cmdparamsCmd := cmd }

def KbdRegs.expectKbdParam (regs : KbdRegs) (cmd : Uint8) : KbdRegs :=
  { regs with kbdparamsLeft := 1, kbdparamsCmd := cmd }

def kbdInject (regs : KbdRegs) (sc : Uint8) (bIsPressed : Bool) :
    KbdRegs :=
  let code := if bIsPressed then sc else sc ||| 0x80
  { regs.output code with irq1 := true }

def handleCommandWithparams (regs : KbdRegs) (cmd : Uint8)
    (pParams : Vector Uint8 8) : Outcome KbdRegs :=
  if cmd = 0x60 then pure { regs with commandByte := pParams[0] }
  else if cmd = 0xD3 then pure regs
  else if cmd = 0xD4 then pure regs
  else if cmd = 0xD1 then pure regs
  else .error .abort

def handleCommand (regs : KbdRegs) (cmd : Uint8) : Outcome KbdRegs :=
  -- The case falls through to the one of 0x60.
  if cmd = 0x20 then pure ((regs.output regs.commandByte).expectParam cmd)
  else if cmd = 0x60 then pure (regs.expectParam cmd)
  else if cmd = 0xA9 then pure (regs.output 0x01)
  else if cmd = 0xAA then pure (regs.output 0x55)
  else if cmd = 0xAD then pure regs
  else if cmd = 0xAE then pure regs
  else if cmd = 0xAB then pure (regs.output 0x00)
  else if cmd = 0xD1 then pure (regs.expectParam cmd)
  else if cmd = 0xD3 then pure (regs.expectParam cmd)
  else if cmd = 0xD4 then pure (regs.expectParam cmd)
  else if cmd = 0xFF then pure regs
  else .error .abort

def handleKbdCommandWithparams (regs : KbdRegs) (cmd : Uint8) :
    Outcome KbdRegs :=
  if cmd = 0xED then pure regs.acknowledge
  else if cmd = 0xF0 then pure regs.acknowledge
  else .error .abort

def handleKbdCommand (regs : KbdRegs) (cmd : Uint8) : Outcome KbdRegs :=
  if cmd = 0x05 then pure regs
  else if cmd = 0xED then pure (regs.expectKbdParam cmd)
  else if cmd = 0xF0 then
    pure (regs.expectKbdParam cmd).acknowledge
  else if cmd = 0xF2 then pure regs.acknowledge
  else if cmd = 0xF4 then pure regs.acknowledge
  else if cmd = 0xF5 then pure regs.acknowledge
  else if cmd = 0xFF then pure regs.restart
  else .error .abort

/-- The output buffer holds a byte for the guest. -/
def KbdRegs.outputFull (regs : KbdRegs) : Prop :=
  regs.status &&& 1 ≠ 0

instance (regs : KbdRegs) : Decidable regs.outputFull :=
  inferInstanceAs (Decidable (_ ≠ _))

def kbdInb (regs : KbdRegs) (port : Uint16) :
    Outcome (Uint8 × KbdRegs) :=
  if port = 0x64 then pure (regs.status, regs)
  else if port = 0x60 then
    if regs.ndxOutput < 0 then pure (0x00, regs)
    else do
      let ret ← load regs.bufOutput regs.ndxOutput
      let ndx := regs.ndxOutput - 1
      let left := { regs with ndxOutput := ndx }
      if ndx < 0 then
        pure (ret, { left with status := regs.status &&& ~~~1, irq1 := false })
      else pure (ret, { left with irq1 := true })
  else .error .abort

def kbdOutb (regs : KbdRegs) (port : Uint16) (val : Uint8) :
    Outcome KbdRegs :=
  if port = 0x64 then handleCommand regs val
  else if port = 0x60 ∧ 0 < regs.cmdparamsLeft then do
    let cmdparams ← store regs.cmdparams (regs.cmdparamsLeft - 1) val
    let left := regs.cmdparamsLeft - 1
    let next :=
      { regs with cmdparams := cmdparams, cmdparamsLeft := left }
    if left ≤ 0 then
      handleCommandWithparams next regs.cmdparamsCmd cmdparams
    else pure next
  else if port = 0x60 ∧ 0 < regs.kbdparamsLeft then do
    let kbdparams ← store regs.kbdparams (regs.kbdparamsLeft - 1) val
    let left := regs.kbdparamsLeft - 1
    let next :=
      { regs with kbdparams := kbdparams, kbdparamsLeft := left }
    if left ≤ 0 then handleKbdCommandWithparams next regs.kbdparamsCmd
    else pure next
  else if port = 0x60 then handleKbdCommand regs val
  else .error .abort

/-! ## Steps -/

/-- A step of the guest or, for a key event, of the viewer. -/
inductive KbdStep where
  | inject (sc : Uint8) (bIsPressed : Bool)
  | outb (port : Uint16) (val : Uint8)
  | inb (port : Uint16)
deriving DecidableEq, Repr

/-- The byte that a read delivers. -/
abbrev KbdResponse := Option Uint8

def kbdStep : Call KbdRegs KbdStep KbdResponse
  | regs, .inject sc bIsPressed => pure (none, kbdInject regs sc bIsPressed)
  | regs, .outb port val => do
      pure (none, ← kbdOutb regs port val)
  | regs, .inb port => do
      let (val, next) ← kbdInb regs port
      pure (some val, next)

end Kvmulate.Keyboard
