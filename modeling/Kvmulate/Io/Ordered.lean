import Kvmulate.Io

/-!
# The order of the handlers

The table of `io.c` against a list of slots that is read off the calls alone:
a slot for each handler that was registered while there was room, which holds
the handler last put there.
-/

namespace Kvmulate.Io

open DeviceLib

variable {σ : Type}

/-! ## Calls -/

/-- The calls that change the table.  A handle is the number of its slot. -/
inductive TableCall (σ : Type) where
  | register (handler : IoHandler σ)
  | remap (hdl : Nat) (pNewHandler : IoHandler σ)

/-- The handle that a registration returns, if it is not `NULL`. -/
def tableCall : Call (IoTable σ) (TableCall σ) (Option Nat)
  | table, .register handler => pure (ioRegisterHandler table handler)
  | table, .remap hdl pNewHandler => do
      let (_, next) ← ioRemapHandler table hdl pNewHandler
      pure (none, next)

/-! ## The list of slots -/

def TableCall.registered : TableCall σ → Option (IoHandler σ)
  | .register handler => some handler
  | .remap _ _ => none

/-- The handler that the call puts into a slot in place of another. -/
def TableCall.replaced (slot : Nat) : TableCall σ → Option (IoHandler σ)
  | .register _ => none
  | .remap hdl pNewHandler => if hdl = slot then some pNewHandler else none

/-- The handlers that found room, as they were registered. -/
def slotsOf (calls : List (TableCall σ)) : List (IoHandler σ) :=
  (calls.filterMap TableCall.registered).take (maxHandlers - 1)

/-- What the slot holds after the calls. -/
def currentHandler (calls : List (TableCall σ)) (slot : Nat) :
    Option (IoHandler σ) :=
  ((slotsOf calls)[slot]?).map fun first =>
    ((calls.filterMap (TableCall.replaced slot)).getLast?).getD first

section Slots

variable {calls : List (TableCall σ)} {slot : Nat}

theorem slotsOf_register {handler : IoHandler σ} :
    slotsOf (calls ++ [.register handler]) =
      if (slotsOf calls).length < maxHandlers - 1 then
        slotsOf calls ++ [handler]
      else slotsOf calls := by
  unfold slotsOf
  rw [List.filterMap_append, List.length_take]
  change ((calls.filterMap TableCall.registered) ++ [handler]).take _ = _
  by_cases room :
      (calls.filterMap TableCall.registered).length < maxHandlers - 1
  · rw [if_pos (by omega), List.take_of_length_le, List.take_of_length_le]
    · omega
    · rw [List.length_append, List.length_singleton]
      omega
  · rw [if_neg (by omega), List.take_append_of_le_length (by omega)]

theorem slotsOf_remap {hdl : Nat} {pNewHandler : IoHandler σ} :
    slotsOf (calls ++ [.remap hdl pNewHandler]) = slotsOf calls := by
  unfold slotsOf
  rw [List.filterMap_append]
  change ((calls.filterMap TableCall.registered) ++ []).take _ = _
  rw [List.append_nil]

theorem replaced_register {handler : IoHandler σ} :
    (calls ++ [TableCall.register handler]).filterMap
        (TableCall.replaced slot) =
      calls.filterMap (TableCall.replaced slot) := by
  rw [List.filterMap_append]
  exact List.append_nil _

theorem getLast?_replaced_remap {hdl : Nat} {pNewHandler : IoHandler σ} :
    ((calls ++ [TableCall.remap hdl pNewHandler]).filterMap
        (TableCall.replaced slot)).getLast? =
      if hdl = slot then some pNewHandler
      else (calls.filterMap (TableCall.replaced slot)).getLast? := by
  rw [List.filterMap_append]
  by_cases same : hdl = slot
  · simp [TableCall.replaced, same]
  · simp [TableCall.replaced, same]

/-- Adding a slot leaves what the others hold. -/
theorem currentHandler_register {handler : IoHandler σ}
    (fresh : ∀ slot, (slotsOf calls).length ≤ slot →
      calls.filterMap (TableCall.replaced slot) = []) :
    currentHandler (calls ++ [.register handler]) slot =
      if slot = (slotsOf calls).length ∧ slot < maxHandlers - 1 then
        some handler
      else currentHandler calls slot := by
  unfold currentHandler
  rw [slotsOf_register, replaced_register]
  by_cases room : (slotsOf calls).length < maxHandlers - 1
  · rw [if_pos room, List.getElem?_append]
    by_cases inside : slot < (slotsOf calls).length
    · rw [if_pos inside, if_neg (by omega)]
    · rw [if_neg inside, fresh slot (by omega),
        List.getElem?_eq_none (Nat.le_of_not_lt inside)]
      by_cases last : slot = (slotsOf calls).length
      · rw [if_pos ⟨last, by omega⟩, last, Nat.sub_self]
        rfl
      · rw [if_neg (by omega), List.getElem?_eq_none
          (by rw [List.length_singleton]; omega)]
  · rw [if_neg room, if_neg (by omega)]

/-- A replacement changes what one slot holds. -/
theorem currentHandler_remap {hdl : Nat} {pNewHandler : IoHandler σ}
    (filled : hdl < (slotsOf calls).length) :
    currentHandler (calls ++ [.remap hdl pNewHandler]) slot =
      if hdl = slot then some pNewHandler
      else currentHandler calls slot := by
  unfold currentHandler
  rw [slotsOf_remap, getLast?_replaced_remap]
  by_cases same : hdl = slot
  · subst same
    rw [if_pos rfl, if_pos rfl, List.getElem?_eq_getElem filled]
    rfl
  · rw [if_neg same, if_neg same]

end Slots

/-! ## The table holds what the calls say -/

theorem remap_eq_ok_iff {table next : IoTable σ} {hdl : Nat}
    {pNewHandler : IoHandler σ} {result : Int} :
    ioRemapHandler table hdl pNewHandler = .ok (result, next) ↔
      hdl < table.handlers.length ∧ result = 0 ∧
        next.handlers = table.handlers.set hdl pNewHandler := by
  obtain ⟨handlers, bounded⟩ := next
  unfold ioRemapHandler
  by_cases filled : hdl < table.handlers.length
  · simp [filled, eq_comm]
  · simp [filled]

/-- The table is the list of slots, and no slot was replaced before it was
filled. -/
structure Tracks (calls : List (TableCall σ)) (table : IoTable σ) :
    Prop where
  length : table.handlers.length = (slotsOf calls).length
  current : ∀ slot, table.handlers[slot]? = currentHandler calls slot
  fresh : ∀ slot, (slotsOf calls).length ≤ slot →
    calls.filterMap (TableCall.replaced slot) = []

namespace Tracks

variable {calls : List (TableCall σ)} {table next : IoTable σ}

theorem start : Tracks [] (IoTable.empty (σ := σ)) where
  length := rfl
  current _ := rfl
  fresh _ _ := rfl

theorem register {handler : IoHandler σ} (tracks : Tracks calls table) :
    Tracks (calls ++ [.register handler])
      (ioRegisterHandler table handler).2 := by
  have length := tracks.length
  unfold ioRegisterHandler
  by_cases room : table.handlers.length < maxHandlers - 1
  · rw [dif_pos room]
    refine ⟨?_, ?_, ?_⟩
    · rw [slotsOf_register, if_pos (by omega)]
      change (table.handlers ++ [handler]).length = _
      rw [List.length_append, List.length_append, length]
    · intro slot
      rw [currentHandler_register tracks.fresh, ← tracks.current]
      change (table.handlers ++ [handler])[slot]? = _
      rw [List.getElem?_append]
      by_cases inside : slot < table.handlers.length
      · rw [if_pos inside, if_neg (by omega)]
      · rw [if_neg inside]
        by_cases last : slot = (slotsOf calls).length
        · rw [if_pos ⟨last, by omega⟩, last, length, Nat.sub_self]
          rfl
        · rw [if_neg (by omega), List.getElem?_eq_none
            (by rw [List.length_singleton]; omega),
            List.getElem?_eq_none (by omega)]
    · intro slot beyond
      rw [replaced_register]
      apply tracks.fresh
      rw [slotsOf_register, if_pos (by omega), List.length_append] at beyond
      omega
  · rw [dif_neg room]
    refine ⟨?_, ?_, ?_⟩
    · rw [slotsOf_register, if_neg (by omega), length]
    · intro slot
      rw [currentHandler_register tracks.fresh, if_neg (by omega)]
      exact tracks.current slot
    · intro slot beyond
      rw [replaced_register]
      apply tracks.fresh
      rw [slotsOf_register, if_neg (by omega)] at beyond
      exact beyond

theorem remap {hdl : Nat} {pNewHandler : IoHandler σ} {result : Int}
    (tracks : Tracks calls table)
    (called : ioRemapHandler table hdl pNewHandler = .ok (result, next)) :
    Tracks (calls ++ [.remap hdl pNewHandler]) next := by
  have length := tracks.length
  obtain ⟨filled, -, stored⟩ := remap_eq_ok_iff.mp called
  refine ⟨?_, ?_, ?_⟩
  · rw [slotsOf_remap, ← length, stored]
    exact List.length_set
  · intro slot
    rw [currentHandler_remap (by omega), ← tracks.current, stored,
      List.getElem?_set]
    by_cases same : hdl = slot
    · rw [if_pos same, if_pos same, if_pos (by omega)]
    · rw [if_neg same, if_neg same]
  · intro slot beyond
    rw [slotsOf_remap] at beyond
    rw [List.filterMap_append, tracks.fresh slot beyond]
    simp only [List.filterMap_cons, TableCall.replaced]
    rw [if_neg (by omega)]
    rfl

end Tracks

theorem tracks_of_run {calls : List (TableCall σ)} {table : IoTable σ}
    {handles : List (Option Nat)}
    (ran : run tableCall IoTable.empty calls = .ok (handles, table)) :
    Tracks calls table := by
  induction calls using List.reverseRecOn generalizing table handles with
  | nil =>
      cases ran
      exact Tracks.start
  | append_singleton calls call inductionHypothesis =>
      obtain ⟨middle, before, handle, ranCalls, called, -⟩ :=
        run_snoc_eq_ok_iff.mp ran
      have tracks := inductionHypothesis ranCalls
      cases call with
      | register handler =>
          have same := congrArg Prod.snd (Except.ok.inj called)
          change (ioRegisterHandler middle handler).2 = table at same
          rw [← same]
          exact tracks.register
      | remap hdl pNewHandler =>
          obtain ⟨⟨result, next⟩, remapped, done⟩ :=
            Outcome.bind_eq_ok_iff.mp called
          cases done
          exact tracks.remap remapped

/-! ## Which ports a call can move -/

section Moved

variable {table next : IoTable σ} {port : Uint16}
variable {handler found : IoHandler σ}

/-- What a registration does to the table. -/
theorem register_cases :
    ioRegisterHandler table handler = (none, table) ∨
      ∃ hdl, (ioRegisterHandler table handler).1 = some hdl ∧
        (ioRegisterHandler table handler).2.handlers =
          table.handlers ++ [handler] := by
  unfold ioRegisterHandler
  by_cases room : table.handlers.length < maxHandlers - 1
  · rw [dif_pos room]
    exact Or.inr ⟨_, rfl, rfl⟩
  · rw [dif_neg room]
    exact Or.inl rfl

theorem lookup_register
    (claimed : lookupHandler table port = some found) :
    lookupHandler (ioRegisterHandler table handler).2 port =
      some found := by
  rcases @register_cases _ table handler with same | ⟨_, -, added⟩
  · rw [same]
    exact claimed
  · unfold lookupHandler
    rw [added]
    exact find?_append_of_some claimed

theorem lookup_remap {hdl : Nat} {result : Int} {old : IoHandler σ}
    (held : table.handlers[hdl]? = some old)
    (called : ioRemapHandler table hdl handler = .ok (result, next))
    (moved : lookupHandler next port ≠ lookupHandler table port) :
    old.decodes port = true ∨ handler.decodes port = true := by
  by_contra neither
  obtain ⟨oldRejected, newRejected⟩ := not_or.mp neither
  apply moved
  obtain ⟨-, -, stored⟩ := remap_eq_ok_iff.mp called
  unfold lookupHandler
  rw [stored]
  exact find?_set_of_rejected held (by simpa using oldRejected)
    (by simpa using newRejected)

end Moved

/-! ## The law -/

/-- The dispatch of a table that was built by the calls. -/
structure OrderedDispatch (calls : List (TableCall σ))
    (table : IoTable σ) : Prop where
  /-- The earliest slot whose handler decodes the port serves it. -/
  found : ∀ port handler, lookupHandler table port = some handler ↔
    ∃ slot, FirstAt (fun other => other.decodes port)
      (currentHandler calls) slot handler
  missing : ∀ port, lookupHandler table port = none ↔
    ∀ slot handler, currentHandler calls slot = some handler →
      handler.decodes port = false
  claimed : ∀ handler port other, lookupHandler table port = some other →
    lookupHandler (ioRegisterHandler table handler).2 port = some other
  refused : ∀ handler, (ioRegisterHandler table handler).1 = none →
    (ioRegisterHandler table handler).2 = table
  filled : ∀ handler hdl,
    (ioRegisterHandler table handler).1 = some hdl →
      currentHandler calls hdl = none ∧
        currentHandler (calls ++ [.register handler]) hdl = some handler
  replaced : ∀ hdl old handler, currentHandler calls hdl = some old →
    ∃ next, ioRemapHandler table hdl handler = .ok (0, next) ∧
      ∀ port, lookupHandler next port ≠ lookupHandler table port →
        old.decodes port = true ∨ handler.decodes port = true

/-- What an access hands to the handler that serves the port is the distance
of the port from the base. -/
def PassesDistance (table : IoTable σ) (port : Uint16)
    (handler : IoHandler σ) : Prop :=
  ∃ distance : Uint16,
    handler.base.toNat + distance.toNat = port.toNat ∧
      ∀ state : σ,
        (∀ entry val, handler.outb = some entry →
          ioOutb table port val state = entry distance val state) ∧
        (∀ entry val, handler.outw = some entry →
          ioOutw table port val state = entry distance val state) ∧
        (∀ entry val, handler.outl = some entry →
          ioOutl table port val state = entry distance val state) ∧
        (∀ entry, handler.inb = some entry →
          ioInb table port state = entry distance state) ∧
        (∀ entry, handler.inw = some entry →
          ioInw table port state = entry distance state) ∧
        ∀ entry, handler.inl = some entry →
          ioInl table port state = entry distance state

theorem passesDistance_of_lookup {table : IoTable σ} {port : Uint16}
    {handler : IoHandler σ}
    (found : lookupHandler table port = some handler) :
    PassesDistance table port handler := by
  refine ⟨port - handler.base,
    base_add_distance (decodes_of_lookup found), fun state => ?_⟩
  unfold ioOutb ioOutw ioOutl ioInb ioInw ioInl
  rw [found]
  refine ⟨?_, ?_, ?_, ?_, ?_, ?_⟩
  · intro entry val provided
    simp only [provided, callOut]
  · intro entry val provided
    simp only [provided, callOut]
  · intro entry val provided
    simp only [provided, callOut]
  · intro entry provided
    simp only [provided, callIn]
  · intro entry provided
    simp only [provided, callIn]
  · intro entry provided
    simp only [provided, callIn]

theorem Tracks.orderedDispatch {calls : List (TableCall σ)}
    {table : IoTable σ} (tracks : Tracks calls table) :
    OrderedDispatch calls table where
  found port handler := by
    unfold lookupHandler
    rw [find?_eq_some_iff_firstAt, funext tracks.current]
  missing port := by
    unfold lookupHandler
    rw [find?_eq_none_iff_slots]
    simp only [tracks.current]
  claimed _ _ _ := lookup_register
  refused handler none := by
    rcases @register_cases _ table handler with same | ⟨_, some, -⟩
    · rw [same]
    · rw [some] at none
      cases none
  filled handler hdl returned := by
    have length := tracks.length
    have added := (@Tracks.register _ _ _ handler tracks).current hdl
    rw [← tracks.current, ← added]
    unfold ioRegisterHandler at returned ⊢
    by_cases room : table.handlers.length < maxHandlers - 1
    · rw [dif_pos room] at returned ⊢
      cases returned
      exact ⟨List.getElem?_eq_none (Nat.le_refl _),
        List.getElem?_concat_length⟩
    · rw [dif_neg room] at returned
      cases returned
  replaced hdl old handler current := by
    rw [← tracks.current] at current
    have filled := (List.getElem?_eq_some_iff.mp current).1
    have called :
        ioRemapHandler table hdl handler = .ok (0, ⟨_, _⟩) :=
      if_pos filled
    exact ⟨_, called, fun port moved => lookup_remap current called moved⟩

/-- After every sequence of registrations and of replacements through handles
that were returned, the table dispatches by the order of its slots, and hands
on the distance of the port. -/
theorem dispatch_refines_slots {calls : List (TableCall σ)}
    {handles : List (Option Nat)} {table : IoTable σ}
    (ran : run tableCall IoTable.empty calls = .ok (handles, table)) :
    OrderedDispatch calls table ∧
      ∀ port handler, lookupHandler table port = some handler →
        PassesDistance table port handler := by
  refine ⟨(tracks_of_run ran).orderedDispatch, ?_⟩
  intro port handler found
  exact passesDistance_of_lookup found

/-- A handler that answers reads of bytes with their distance. -/
def echo (base mask : Uint16) : IoHandler Unit where
  base := base
  mask := mask
  inb := some fun address state => .ok (address.setWidth 8, state)
  inw := none
  inl := none
  outb := none
  outw := none
  outl := none

/-- Two windows that overlap, the first of which is moved away. -/
def overlapping : List (TableCall Unit) :=
  [.register (echo 0x70 0xFFF0), .register (echo 0x78 0xFFF8),
    .remap 0 (echo 0x60 0xFFF0)]

theorem dispatch_refines_slots_overlapping :
    ∃ table : IoTable Unit, OrderedDispatch overlapping table ∧
      ioInb table 0x7A () = .ok (2, ()) := by
  have ran :
      run tableCall IoTable.empty overlapping =
        .ok ([some 0, some 1, none], ⟨_, _⟩) := rfl
  exact ⟨_, (dispatch_refines_slots ran).1, rfl⟩

end Kvmulate.Io
