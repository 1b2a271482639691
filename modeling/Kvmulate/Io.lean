import Kvmulate.Types
import Kvmulate.Lib.Decode
import Kvmulate.Lib.FirstMatch
import Kvmulate.Lib.Run

/-!
# Port I/O

The handler table of `io.c`: registration, replacement, and the dispatch of an
access to the first handler that decodes its port.  The entry points of a
handler work on a state of the machine; a missing one is `none`.
-/

namespace Kvmulate.Io

open DeviceLib

variable {σ : Type}

/-! ## The table -/

/-- `io_handler_t`.  An entry point knows its handler. -/
structure IoHandler (σ : Type) where
  base : Uint16
  mask : Uint16
  inb : Option (Uint16 → σ → Outcome (Uint8 × σ))
  inw : Option (Uint16 → σ → Outcome (Uint16 × σ))
  inl : Option (Uint16 → σ → Outcome (Uint32 × σ))
  outb : Option (Uint16 → Uint8 → σ → Outcome σ)
  outw : Option (Uint16 → Uint16 → σ → Outcome σ)
  outl : Option (Uint16 → Uint32 → σ → Outcome σ)

def IoHandler.decodes (handler : IoHandler σ) (address : Uint16) : Bool :=
  address &&& handler.mask = handler.base

def maxHandlers : Nat := 128

/-- The used part of `iohandler`. -/
structure IoTable (σ : Type) where
  handlers : List (IoHandler σ)
  bounded : handlers.length < maxHandlers

def IoTable.empty : IoTable σ := ⟨[], Nat.zero_lt_succ 127⟩

def lookupHandler (table : IoTable σ) (address : Uint16) :
    Option (IoHandler σ) :=
  table.handlers.find? fun handler => handler.decodes address

/-- The result points to the slot that was filled. -/
def ioRegisterHandler (table : IoTable σ) (handler : IoHandler σ) :
    Option Nat × IoTable σ :=
  if room : table.handlers.length < maxHandlers - 1 then
    (some table.handlers.length,
      ⟨table.handlers ++ [handler], by
        rw [List.length_append, List.length_singleton]
        omega⟩)
  else (none, table)

/-- A store through `hdl`, which must point to a slot that was filled. -/
def ioRemapHandler (table : IoTable σ) (hdl : Nat)
    (pNewHandler : IoHandler σ) : Outcome (Int × IoTable σ) :=
  if hdl < table.handlers.length then
    pure (0,
      ⟨table.handlers.set hdl pNewHandler, by
        rw [List.length_set]
        exact table.bounded⟩)
  else .error .fault

/-! ## Accesses -/

/-- `ASSERT(handler->out_ != NULL, ..); handler->out_(..)` -/
def callOut {width : Nat}
    (entry : Option (Uint16 → BitVec width → σ → Outcome σ))
    (address : Uint16) (val : BitVec width) (state : σ) : Outcome σ :=
  match entry with
  | none => .error .abort
  | some out => out address val state

/-- `return handler->in_(..)`, where the pointer is not checked. -/
def callIn {width : Nat}
    (entry : Option (Uint16 → σ → Outcome (BitVec width × σ)))
    (address : Uint16) (state : σ) : Outcome (BitVec width × σ) :=
  match entry with
  | none => .error .fault
  | some read => read address state

def ioOutb (table : IoTable σ) (port : Uint16) (val : Uint8) (state : σ) :
    Outcome σ :=
  match lookupHandler table port with
  | none => pure state
  | some handler => callOut handler.outb (port - handler.base) val state

def ioOutw (table : IoTable σ) (port : Uint16) (val : Uint16) (state : σ) :
    Outcome σ :=
  match lookupHandler table port with
  | none => pure state
  | some handler => callOut handler.outw (port - handler.base) val state

def ioOutl (table : IoTable σ) (port : Uint16) (val : Uint32) (state : σ) :
    Outcome σ :=
  match lookupHandler table port with
  | none => pure state
  | some handler => callOut handler.outl (port - handler.base) val state

def ioInb (table : IoTable σ) (port : Uint16) (state : σ) :
    Outcome (Uint8 × σ) :=
  match lookupHandler table port with
  | none => pure (0xFF, state)
  | some handler => callIn handler.inb (port - handler.base) state

def ioInw (table : IoTable σ) (port : Uint16) (state : σ) :
    Outcome (Uint16 × σ) :=
  match lookupHandler table port with
  | none => pure (0, state)
  | some handler => callIn handler.inw (port - handler.base) state

def ioInl (table : IoTable σ) (port : Uint16) (state : σ) :
    Outcome (Uint32 × σ) :=
  match lookupHandler table port with
  | none => pure (0, state)
  | some handler => callIn handler.inl (port - handler.base) state

/-- The six accesses of a guest. -/
inductive IoAccess where
  | outb (port : Uint16) (val : Uint8)
  | outw (port : Uint16) (val : Uint16)
  | outl (port : Uint16) (val : Uint32)
  | inb (port : Uint16)
  | inw (port : Uint16)
  | inl (port : Uint16)
deriving DecidableEq, Repr

/-- What an access delivers. -/
inductive IoData where
  | none
  | byte (val : Uint8)
  | word (val : Uint16)
  | long (val : Uint32)
deriving DecidableEq, Repr

def IoAccess.port : IoAccess → Uint16
  | .outb port _ => port
  | .outw port _ => port
  | .outl port _ => port
  | .inb port => port
  | .inw port => port
  | .inl port => port

def ioAccess (table : IoTable σ) : Call σ IoAccess IoData
  | state, .outb port val => do
      pure (.none, ← ioOutb table port val state)
  | state, .outw port val => do
      pure (.none, ← ioOutw table port val state)
  | state, .outl port val => do
      pure (.none, ← ioOutl table port val state)
  | state, .inb port => do
      let (val, next) ← ioInb table port state
      pure (.byte val, next)
  | state, .inw port => do
      let (val, next) ← ioInw table port state
      pure (.word val, next)
  | state, .inl port => do
      let (val, next) ← ioInl table port state
      pure (.long val, next)

/-! ## The handler that is found -/

theorem decodes_iff {handler : IoHandler σ} {address : Uint16} :
    handler.decodes address = true ↔
      address &&& handler.mask = handler.base := by
  rw [IoHandler.decodes, decide_eq_true_eq]

theorem decodes_of_lookup {table : IoTable σ} {port : Uint16}
    {handler : IoHandler σ}
    (found : lookupHandler table port = some handler) :
    handler.decodes port = true :=
  @List.find?_some _ _ handler _ found

/-- A handler that decodes a port starts at or below it, so that the distance
does not wrap. -/
theorem base_add_distance {handler : IoHandler σ} {port : Uint16}
    (decoded : handler.decodes port = true) :
    handler.base.toNat + (port - handler.base).toNat = port.toNat := by
  have below : handler.base.toNat ≤ port.toNat := by
    rw [← decodes_iff.mp decoded, BitVec.and_comm]
    exact toNat_and_le_right _ _
  have bound := port.isLt
  rw [BitVec.toNat_sub]
  omega

end Kvmulate.Io
