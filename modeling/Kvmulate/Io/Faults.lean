import Kvmulate.Io.Parts
import Kvmulate.Lib.Faults

/-!
# The entry points that fault

An access faults in the entry point that it is dispatched to, or because a
read finds `NULL` in its place.
-/

namespace Kvmulate.Io

open DeviceLib

variable {σ τ : Type}

/-- The entry point of the access faults. -/
def IoHandler.EntryFaults (handler : IoHandler τ) (state : τ) :
    IoAccess → Prop
  | .outb port val =>
      callOut handler.outb (port - handler.base) val state = .error .fault
  | .outw port val =>
      callOut handler.outw (port - handler.base) val state = .error .fault
  | .outl port val =>
      callOut handler.outl (port - handler.base) val state = .error .fault
  | .inb port =>
      callIn handler.inb (port - handler.base) state = .error .fault
  | .inw port =>
      callIn handler.inw (port - handler.base) state = .error .fault
  | .inl port =>
      callIn handler.inl (port - handler.base) state = .error .fault

/-- The access reads through a pointer that is `NULL`. -/
def IoHandler.NullRead (handler : IoHandler τ) : IoAccess → Prop
  | .inb _ => handler.inb.isNone = true
  | .inw _ => handler.inw.isNone = true
  | .inl _ => handler.inl.isNone = true
  | _ => False

/-- The entry points that there are do not fault. -/
structure IoHandler.Quiet (handler : IoHandler τ) (state : τ) : Prop where
  inb : ∀ read, handler.inb = some read →
    ∀ address, (read address state).Defined
  inw : ∀ read, handler.inw = some read →
    ∀ address, (read address state).Defined
  inl : ∀ read, handler.inl = some read →
    ∀ address, (read address state).Defined
  outb : ∀ out, handler.outb = some out →
    ∀ address val, (out address val state).Defined
  outw : ∀ out, handler.outw = some out →
    ∀ address val, (out address val state).Defined
  outl : ∀ out, handler.outl = some out →
    ∀ address val, (out address val state).Defined

section Handler

variable {handler : IoHandler τ} {state : τ} {access : IoAccess}

theorem faultsIff_serve :
    FaultsIff (handler.serve state access)
      (handler.EntryFaults state access) := by
  cases access with
  | outb => exact Outcome.bind_ok_eq_error_iff
  | outw => exact Outcome.bind_ok_eq_error_iff
  | outl => exact Outcome.bind_ok_eq_error_iff
  | inb => exact Outcome.bind_ok_eq_error_iff
  | inw => exact Outcome.bind_ok_eq_error_iff
  | inl => exact Outcome.bind_ok_eq_error_iff

/-- A pointer for reads is not tested. -/
theorem callIn_fault_iff {width : Nat}
    {entry : Option (Uint16 → τ → Outcome (BitVec width × τ))}
    {address : Uint16}
    (quiet : ∀ read, entry = some read → (read address state).Defined) :
    callIn entry address state = .error .fault ↔
      entry.isNone = true := by
  cases entry with
  | none => exact iff_of_true rfl rfl
  | some read => exact iff_of_false (quiet read rfl) Bool.false_ne_true

/-- A pointer for writes is. -/
theorem callOut_ne_fault {width : Nat}
    {entry : Option (Uint16 → BitVec width → τ → Outcome τ)}
    {address : Uint16} {val : BitVec width}
    (quiet : ∀ out, entry = some out → (out address val state).Defined) :
    callOut entry address val state ≠ .error .fault := by
  cases entry with
  | none => exact nofun
  | some out => exact quiet out rfl

theorem IoHandler.Quiet.entryFaults_iff (quiet : handler.Quiet state) :
    handler.EntryFaults state access ↔ handler.NullRead access := by
  cases access with
  | outb =>
      exact iff_of_false
        (callOut_ne_fault fun out own => quiet.outb out own _ _) id
  | outw =>
      exact iff_of_false
        (callOut_ne_fault fun out own => quiet.outw out own _ _) id
  | outl =>
      exact iff_of_false
        (callOut_ne_fault fun out own => quiet.outl out own _ _) id
  | inb => exact callIn_fault_iff fun read own => quiet.inb read own _
  | inw => exact callIn_fault_iff fun read own => quiet.inw read own _
  | inl => exact callIn_fault_iff fun read own => quiet.inl read own _

theorem nullRead_onPart {part : Part σ τ} :
    (handler.onPart part).NullRead access ↔ handler.NullRead access := by
  cases access with
  | inb => exact Bool.coe_iff_coe.mpr Option.isNone_map
  | inw => exact Bool.coe_iff_coe.mpr Option.isNone_map
  | inl => exact Bool.coe_iff_coe.mpr Option.isNone_map
  | outb => exact Iff.rfl
  | outw => exact Iff.rfl
  | outl => exact Iff.rfl

end Handler

end Kvmulate.Io
