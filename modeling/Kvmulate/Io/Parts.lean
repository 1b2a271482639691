import Kvmulate.Io

/-!
# The handler of one device

A handler is written over the state of its device, which is a part of the
state of the machine.
-/

namespace Kvmulate.Io

open DeviceLib

variable {σ τ β : Type}

/-! ## One handler -/

/-- The access as the handler that was found serves it. -/
def IoHandler.serve (handler : IoHandler σ) : Call σ IoAccess IoData
  | state, .outb port val => do
      pure (.none, ← callOut handler.outb (port - handler.base) val state)
  | state, .outw port val => do
      pure (.none, ← callOut handler.outw (port - handler.base) val state)
  | state, .outl port val => do
      pure (.none, ← callOut handler.outl (port - handler.base) val state)
  | state, .inb port => do
      let (val, next) ← callIn handler.inb (port - handler.base) state
      pure (.byte val, next)
  | state, .inw port => do
      let (val, next) ← callIn handler.inw (port - handler.base) state
      pure (.word val, next)
  | state, .inl port => do
      let (val, next) ← callIn handler.inl (port - handler.base) state
      pure (.long val, next)

section Dispatch

variable {table : IoTable σ} {access : IoAccess} {state next : σ}
variable {handler : IoHandler σ} {data : IoData}

theorem ioAccess_of_lookup
    (found : lookupHandler table access.port = some handler) :
    ioAccess table state access = handler.serve state access := by
  cases access with
  | outb port val =>
      simp only [ioAccess, ioOutb, show lookupHandler table port = _ from
        found, IoHandler.serve]
  | outw port val =>
      simp only [ioAccess, ioOutw, show lookupHandler table port = _ from
        found, IoHandler.serve]
  | outl port val =>
      simp only [ioAccess, ioOutl, show lookupHandler table port = _ from
        found, IoHandler.serve]
  | inb port =>
      simp only [ioAccess, ioInb, show lookupHandler table port = _ from
        found, IoHandler.serve]
  | inw port =>
      simp only [ioAccess, ioInw, show lookupHandler table port = _ from
        found, IoHandler.serve]
  | inl port =>
      simp only [ioAccess, ioInl, show lookupHandler table port = _ from
        found, IoHandler.serve]

/-- A port that no handler decodes changes nothing. -/
theorem state_of_unclaimed
    (unclaimed : lookupHandler table access.port = none)
    (accessed : ioAccess table state access = .ok (data, next)) :
    next = state := by
  cases access with
  | outb port val =>
      simp only [ioAccess, ioOutb, show lookupHandler table port = _ from
        unclaimed] at accessed
      cases accessed
      rfl
  | outw port val =>
      simp only [ioAccess, ioOutw, show lookupHandler table port = _ from
        unclaimed] at accessed
      cases accessed
      rfl
  | outl port val =>
      simp only [ioAccess, ioOutl, show lookupHandler table port = _ from
        unclaimed] at accessed
      cases accessed
      rfl
  | inb port =>
      simp only [ioAccess, ioInb, show lookupHandler table port = _ from
        unclaimed] at accessed
      cases accessed
      rfl
  | inw port =>
      simp only [ioAccess, ioInw, show lookupHandler table port = _ from
        unclaimed] at accessed
      cases accessed
      rfl
  | inl port =>
      simp only [ioAccess, ioInl, show lookupHandler table port = _ from
        unclaimed] at accessed
      cases accessed
      rfl

/-- The answer at such a port depends on the width alone. -/
theorem exists_data_of_unclaimed
    (unclaimed : lookupHandler table access.port = none) :
    ∃ data, ∀ state, ioAccess table state access = .ok (data, state) := by
  cases access with
  | outb port val =>
      refine ⟨.none, fun state => ?_⟩
      simp only [ioAccess, ioOutb, show lookupHandler table port = _ from
        unclaimed]
      rfl
  | outw port val =>
      refine ⟨.none, fun state => ?_⟩
      simp only [ioAccess, ioOutw, show lookupHandler table port = _ from
        unclaimed]
      rfl
  | outl port val =>
      refine ⟨.none, fun state => ?_⟩
      simp only [ioAccess, ioOutl, show lookupHandler table port = _ from
        unclaimed]
      rfl
  | inb port =>
      refine ⟨.byte 0xFF, fun state => ?_⟩
      simp only [ioAccess, ioInb, show lookupHandler table port = _ from
        unclaimed]
      rfl
  | inw port =>
      refine ⟨.word 0, fun state => ?_⟩
      simp only [ioAccess, ioInw, show lookupHandler table port = _ from
        unclaimed]
      rfl
  | inl port =>
      refine ⟨.long 0, fun state => ?_⟩
      simp only [ioAccess, ioInl, show lookupHandler table port = _ from
        unclaimed]
      rfl

/-- What the handlers that can be found preserve, every access preserves. -/
theorem ioAccess_preserves {Inv : σ → Prop}
    (preserved : ∀ other, lookupHandler table access.port = some other →
      ∀ data next, other.serve state access = .ok (data, next) → Inv next)
    (holds : Inv state)
    (accessed : ioAccess table state access = .ok (data, next)) :
    Inv next := by
  cases found : lookupHandler table access.port with
  | none =>
      rw [state_of_unclaimed found accessed]
      exact holds
  | some other =>
      rw [ioAccess_of_lookup found] at accessed
      exact preserved other found data next accessed

end Dispatch

/-! ## Parts of a state -/

/-- What a device sees of the state of the machine, and what becomes of the
state behind it. -/
structure Part (σ τ : Type) where
  get : σ → τ
  set : τ → σ → σ

/-- A part that holds what was put there. -/
structure LawfulPart (σ τ : Type) extends Part σ τ where
  get_set : ∀ after state, get (set after state) = after
  set_get : ∀ state, set (get state) state = state

instance : Coe (LawfulPart σ τ) (Part σ τ) := ⟨LawfulPart.toPart⟩

namespace Part

variable (part : Part σ τ)

def read {width : Nat}
    (entry : Uint16 → τ → Outcome (BitVec width × τ)) (address : Uint16)
    (state : σ) : Outcome (BitVec width × σ) := do
  let (val, next) ← entry address (part.get state)
  pure (val, part.set next state)

def write {width : Nat}
    (entry : Uint16 → BitVec width → τ → Outcome τ) (address : Uint16)
    (val : BitVec width) (state : σ) : Outcome σ := do
  let next ← entry address val (part.get state)
  pure (part.set next state)

end Part

def IoHandler.onPart (part : Part σ τ) (handler : IoHandler τ) :
    IoHandler σ where
  base := handler.base
  mask := handler.mask
  inb := handler.inb.map part.read
  inw := handler.inw.map part.read
  inl := handler.inl.map part.read
  outb := handler.outb.map part.write
  outw := handler.outw.map part.write
  outl := handler.outl.map part.write

section OnPart

variable {part : Part σ τ} {handler : IoHandler τ} {state next : σ}
variable {access : IoAccess} {data : IoData}

theorem callOut_onPart {width : Nat}
    (entry : Option (Uint16 → BitVec width → τ → Outcome τ))
    (address : Uint16) (val : BitVec width) (state : σ) :
    callOut (entry.map part.write) address val state = (do
      let next ← callOut entry address val (part.get state)
      pure (part.set next state)) := by
  cases entry with
  | none => rfl
  | some out => rfl

theorem callIn_onPart {width : Nat}
    (entry : Option (Uint16 → τ → Outcome (BitVec width × τ)))
    (address : Uint16) (state : σ) :
    callIn (entry.map part.read) address state = (do
      let (val, next) ← callIn entry address (part.get state)
      pure (val, part.set next state)) := by
  cases entry with
  | none => rfl
  | some read => rfl

/-- The device serves the access from its part, and only that is replaced. -/
theorem serve_onPart (part : Part σ τ) (handler : IoHandler τ) (state : σ)
    (access : IoAccess) :
    (handler.onPart part).serve state access = (do
      let (data, next) ← handler.serve (part.get state) access
      pure (data, part.set next state)) := by
  cases access with
  | outb port val =>
      simp only [IoHandler.serve, IoHandler.onPart, callOut_onPart,
        bind_assoc, pure_bind]
  | outw port val =>
      simp only [IoHandler.serve, IoHandler.onPart, callOut_onPart,
        bind_assoc, pure_bind]
  | outl port val =>
      simp only [IoHandler.serve, IoHandler.onPart, callOut_onPart,
        bind_assoc, pure_bind]
  | inb port =>
      simp only [IoHandler.serve, IoHandler.onPart, callIn_onPart,
        bind_assoc, pure_bind]
  | inw port =>
      simp only [IoHandler.serve, IoHandler.onPart, callIn_onPart,
        bind_assoc, pure_bind]
  | inl port =>
      simp only [IoHandler.serve, IoHandler.onPart, callIn_onPart,
        bind_assoc, pure_bind]

/-- A part of a part. -/
def Part.within {ρ : Type} (inner : Part τ ρ) (outer : Part σ τ) :
    Part σ ρ where
  get state := inner.get (outer.get state)
  set after state := outer.set (inner.set after (outer.get state)) state

theorem onPart_onPart {ρ : Type} (inner : Part τ ρ) (outer : Part σ τ)
    (handler : IoHandler ρ) :
    (handler.onPart inner).onPart outer =
      handler.onPart (inner.within outer) := by
  have write {width : Nat}
      (entry : Option (Uint16 → BitVec width → ρ → Outcome ρ)) :
      (entry.map inner.write).map outer.write =
        entry.map (inner.within outer).write := by
    rw [Option.map_map]
    refine congrArg (Option.map · entry) (funext fun out => ?_)
    funext address val state
    simp only [Function.comp_apply, Part.write, Part.within, bind_assoc,
      pure_bind]
  have read {width : Nat}
      (entry : Option (Uint16 → ρ → Outcome (BitVec width × ρ))) :
      (entry.map inner.read).map outer.read =
        entry.map (inner.within outer).read := by
    rw [Option.map_map]
    refine congrArg (Option.map · entry) (funext fun load => ?_)
    funext address state
    simp only [Function.comp_apply, Part.read, Part.within, bind_assoc,
      pure_bind]
  unfold IoHandler.onPart
  simp only [write, read]

theorem serve_onPart_eq_ok_iff :
    (handler.onPart part).serve state access = .ok (data, next) ↔
      ∃ after, handler.serve (part.get state) access = .ok (data, after) ∧
        next = part.set after state := by
  rw [serve_onPart, Outcome.bind_eq_ok_iff]
  constructor
  · intro served
    rcases served with ⟨⟨other, after⟩, called, built⟩
    cases built
    exact ⟨after, called, rfl⟩
  · intro served
    rcases served with ⟨after, called, same⟩
    exact ⟨(data, after), called, by rw [same]; rfl⟩

/-- The handler leaves alone what `view` shows of the state. -/
def IoHandler.Spares (handler : IoHandler σ) (view : σ → β) : Prop :=
  ∀ {state access data next},
    handler.serve state access = .ok (data, next) → view next = view state

theorem spares_onPart {view : σ → β}
    (apart : ∀ after state, view (part.set after state) = view state) :
    (handler.onPart part).Spares view := by
  intro state access data next served
  rcases serve_onPart_eq_ok_iff.mp served with ⟨after, -, same⟩
  rw [same]
  exact apart after state

end OnPart

/-! ## Tables -/

/-- Register handlers one after the other. -/
def registerEach (table : IoTable σ) :
    List (IoHandler σ) → IoTable σ
  | [] => table
  | handler :: rest => registerEach (ioRegisterHandler table handler).2 rest

theorem handlers_register {table : IoTable σ} {handler : IoHandler σ}
    (room : table.handlers.length < maxHandlers - 1) :
    (ioRegisterHandler table handler).2.handlers =
      table.handlers ++ [handler] := by
  unfold ioRegisterHandler
  rw [dif_pos room]

/-- As long as there is room, the table is the list of what was registered. -/
theorem handlers_registerEach {table : IoTable σ}
    {added : List (IoHandler σ)}
    (room : table.handlers.length + added.length < maxHandlers) :
    (registerEach table added).handlers = table.handlers ++ added := by
  induction added generalizing table with
  | nil =>
      exact (List.append_nil _).symm
  | cons handler rest inductionHypothesis =>
      rw [List.length_cons] at room
      have one := @handlers_register _ table handler (by omega)
      change (registerEach _ rest).handlers = _
      rw [inductionHypothesis, one, List.append_assoc]
      · rfl
      · rw [one, List.length_append, List.length_singleton]
        omega

/-- The table of these handlers alone. -/
def tableOf (handlers : List (IoHandler σ)) : IoTable σ :=
  registerEach IoTable.empty handlers

theorem lookupHandler_tableOf {handlers : List (IoHandler σ)}
    (room : handlers.length < maxHandlers) (port : Uint16) :
    lookupHandler (tableOf handlers) port =
      handlers.find? fun handler => handler.decodes port := by
  have table : (tableOf handlers).handlers = handlers := by
    unfold tableOf
    rw [handlers_registerEach (by
      change 0 + _ < _
      rw [Nat.zero_add]
      exact room)]
    rfl
  unfold lookupHandler
  rw [table]

/-- A port that no handler decodes is served alike by every table. -/
theorem ioAccess_of_unclaimed {table : IoTable σ} {small : IoTable τ}
    {part : LawfulPart σ τ} {state : σ} {access : IoAccess}
    (unclaimed : lookupHandler table access.port = none)
    (unclaimedSmall : lookupHandler small access.port = none) :
    ioAccess table state access = (do
      let (data, next) ← ioAccess small (part.get state) access
      pure (data, part.set next state)) := by
  cases access with
  | outb port val =>
      simp only [ioAccess, ioOutb, show lookupHandler table port = _ from
        unclaimed, show lookupHandler small port = _ from unclaimedSmall,
        pure_bind, part.set_get]
  | outw port val =>
      simp only [ioAccess, ioOutw, show lookupHandler table port = _ from
        unclaimed, show lookupHandler small port = _ from unclaimedSmall,
        pure_bind, part.set_get]
  | outl port val =>
      simp only [ioAccess, ioOutl, show lookupHandler table port = _ from
        unclaimed, show lookupHandler small port = _ from unclaimedSmall,
        pure_bind, part.set_get]
  | inb port =>
      simp only [ioAccess, ioInb, show lookupHandler table port = _ from
        unclaimed, show lookupHandler small port = _ from unclaimedSmall,
        pure_bind, part.set_get]
  | inw port =>
      simp only [ioAccess, ioInw, show lookupHandler table port = _ from
        unclaimed, show lookupHandler small port = _ from unclaimedSmall,
        pure_bind, part.set_get]
  | inl port =>
      simp only [ioAccess, ioInl, show lookupHandler table port = _ from
        unclaimed, show lookupHandler small port = _ from unclaimedSmall,
        pure_bind, part.set_get]

end Kvmulate.Io
