import Kvmulate.Io

/-!
# Entry points that a handler lacks

A write asserts that the handler has an entry point for its width, a read
calls the pointer as it is.
-/

namespace Kvmulate.Io

open DeviceLib

variable {σ : Type}

/-- The handler has an entry point for the direction and the width. -/
def IoHandler.Implements (handler : IoHandler σ) : IoAccess → Prop
  | .outb _ _ => handler.outb ≠ none
  | .outw _ _ => handler.outw ≠ none
  | .outl _ _ => handler.outl ≠ none
  | .inb _ => handler.inb ≠ none
  | .inw _ => handler.inw ≠ none
  | .inl _ => handler.inl ≠ none

def IoAccess.IsWrite : IoAccess → Prop
  | .outb _ _ => True
  | .outw _ _ => True
  | .outl _ _ => True
  | .inb _ => False
  | .inw _ => False
  | .inl _ => False

/-- Where the handler that is found lacks the entry point, the access ends in
a failed assertion. -/
def Checked (table : IoTable σ) (access : IoAccess) (state : σ) : Prop :=
  ∀ handler, lookupHandler table access.port = some handler →
    ¬ handler.Implements access →
      ioAccess table state access = .error .abort

theorem write_of_missing {table : IoTable σ} {access : IoAccess}
    {handler : IoHandler σ} {state : σ}
    (found : lookupHandler table access.port = some handler)
    (lacks : ¬ handler.Implements access) (write : access.IsWrite) :
    ioAccess table state access = .error .abort := by
  cases access with
  | outb port val =>
      have missing : handler.outb = none := not_not.mp lacks
      change lookupHandler table port = some handler at found
      simp only [ioAccess, ioOutb, found, missing, callOut,
        Outcome.error_bind]
  | outw port val =>
      have missing : handler.outw = none := not_not.mp lacks
      change lookupHandler table port = some handler at found
      simp only [ioAccess, ioOutw, found, missing, callOut,
        Outcome.error_bind]
  | outl port val =>
      have missing : handler.outl = none := not_not.mp lacks
      change lookupHandler table port = some handler at found
      simp only [ioAccess, ioOutl, found, missing, callOut,
        Outcome.error_bind]
  | inb port => exact write.elim
  | inw port => exact write.elim
  | inl port => exact write.elim

theorem read_of_missing {table : IoTable σ} {access : IoAccess}
    {handler : IoHandler σ} {state : σ}
    (found : lookupHandler table access.port = some handler)
    (lacks : ¬ handler.Implements access) (read : ¬ access.IsWrite) :
    ioAccess table state access = .error .fault := by
  cases access with
  | outb port val => exact absurd trivial read
  | outw port val => exact absurd trivial read
  | outl port val => exact absurd trivial read
  | inb port =>
      have missing : handler.inb = none := not_not.mp lacks
      change lookupHandler table port = some handler at found
      simp only [ioAccess, ioInb, found, missing, callIn,
        Outcome.error_bind]
  | inw port =>
      have missing : handler.inw = none := not_not.mp lacks
      change lookupHandler table port = some handler at found
      simp only [ioAccess, ioInw, found, missing, callIn,
        Outcome.error_bind]
  | inl port =>
      have missing : handler.inl = none := not_not.mp lacks
      change lookupHandler table port = some handler at found
      simp only [ioAccess, ioInl, found, missing, callIn,
        Outcome.error_bind]

/-- A missing entry point is caught exactly on writes. -/
theorem checked_iff_write_or_implemented (table : IoTable σ)
    (access : IoAccess) (state : σ) :
    Checked table access state ↔
      access.IsWrite ∨
        ∀ handler, lookupHandler table access.port = some handler →
          handler.Implements access := by
  constructor
  · intro checked
    by_contra neither
    obtain ⟨read, some⟩ := not_or.mp neither
    apply some
    intro handler found
    by_contra lacks
    have aborted := checked handler found lacks
    rw [read_of_missing found lacks read] at aborted
    cases aborted
  · intro enough handler found lacks
    rcases enough with write | implemented
    · exact write_of_missing found lacks write
    · exact absurd (implemented handler found) lacks

/-- A handler for bytes, at the ports of the CMOS. -/
def byteWide : IoHandler Unit where
  base := 0x70
  mask := 0xFE
  inb := some fun _ state => .ok (0, state)
  inw := none
  inl := none
  outb := some fun _ _ state => .ok state
  outw := none
  outl := none

/-- A read of a word from port 0x70 calls a null pointer. -/
theorem not_every_read_checked :
    ¬ ∀ (table : IoTable Unit) (access : IoAccess),
      Checked table access () := by
  intro every
  have called :
      ioAccess (ioRegisterHandler IoTable.empty byteWide).2 ()
        (.inw 0x70) = .error .fault := rfl
  have checked :=
    every (ioRegisterHandler IoTable.empty byteWide).2 (.inw 0x70)
      byteWide rfl (fun provided => provided rfl)
  rw [called] at checked
  cases checked

end Kvmulate.Io
