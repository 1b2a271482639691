import Mathlib.Data.List.Basic

/-!
# Ordered lists in which the first match counts

What a search in order finds in a list whose items are added at the end and
replaced in place.
-/

namespace DeviceLib

universe u

variable {α : Type u} {accepts : α → Bool} {items : List α}

/-- `item` is held by `slot` and accepted, and what an earlier slot holds is
not. -/
def FirstAt (accepts : α → Bool) (current : Nat → Option α) (slot : Nat)
    (item : α) : Prop :=
  current slot = some item ∧ accepts item = true ∧
    ∀ earlier < slot, ∀ other, current earlier = some other →
      accepts other = false

theorem find?_eq_some_iff_firstAt {item : α} :
    items.find? accepts = some item ↔
      ∃ slot, FirstAt accepts (fun slot => items[slot]?) slot item := by
  rw [List.find?_eq_some_iff_getElem]
  constructor
  · intro found
    rcases found with ⟨accepted, slot, inside, holds, before⟩
    refine ⟨slot, ?_, accepted, ?_⟩
    · exact (List.getElem?_eq_getElem inside).trans (congrArg some holds)
    · intro earlier less other found
      obtain ⟨bound, same⟩ := List.getElem?_eq_some_iff.mp found
      have rejected := before earlier less
      rw [same] at rejected
      simpa using rejected
  · intro first
    rcases first with ⟨slot, found, accepted, before⟩
    obtain ⟨inside, holds⟩ := List.getElem?_eq_some_iff.mp found
    refine ⟨accepted, slot, inside, holds, ?_⟩
    intro earlier less
    have bound : earlier < items.length := Nat.lt_trans less inside
    have rejected :=
      before earlier less items[earlier] (List.getElem?_eq_getElem bound)
    simpa using rejected

theorem find?_eq_none_iff_slots :
    items.find? accepts = none ↔
      ∀ (slot : Nat) (item : α), items[slot]? = some item →
        accepts item = false := by
  rw [List.find?_eq_none]
  constructor
  · intro never slot item found
    simpa using never item (List.mem_of_getElem? found)
  · intro never item member
    obtain ⟨slot, found⟩ := List.mem_iff_getElem?.mp member
    simpa using never slot item found

/-- An item at the end does not change what is found already. -/
theorem find?_append_of_some {item found : α}
    (before : items.find? accepts = some found) :
    (items ++ [item]).find? accepts = some found := by
  rw [List.find?_append, before, Option.some_or]

/-- Replacing an item that is not accepted by another such item changes
nothing. -/
theorem find?_set_of_rejected {old new : α} {slot : Nat}
    (held : items[slot]? = some old) (oldRejected : accepts old = false)
    (newRejected : accepts new = false) :
    (items.set slot new).find? accepts = items.find? accepts := by
  induction items generalizing slot with
  | nil => rfl
  | cons head tail inductionHypothesis =>
      cases slot with
      | zero =>
          have same : head = old := by
            simpa using held
          subst same
          rw [List.set_cons_zero,
            List.find?_cons_of_neg (by simp [newRejected]),
            List.find?_cons_of_neg (by simp [oldRejected])]
      | succ slot =>
          have rest := @inductionHypothesis slot (by simpa using held)
          rw [List.set_cons_succ]
          cases accepted : accepts head with
          | true =>
              rw [List.find?_cons_of_pos accepted,
                List.find?_cons_of_pos accepted]
          | false =>
              rw [List.find?_cons_of_neg (by simp [accepted]),
                List.find?_cons_of_neg (by simp [accepted]), rest]

/-- The items at some places, in order. -/
def selected (items : List α) (slots : List Nat) : List α :=
  slots.filterMap fun slot => items[slot]?

/-- A search that would end at one of the places, if at all, finds the same
among the items there. -/
theorem find?_selected {slots : List Nat}
    (sorted : slots.Pairwise fun first second => first < second)
    (only : ∀ slot item,
      FirstAt accepts (fun slot => items[slot]?) slot item →
        slot ∈ slots) :
    (selected items slots).find? accepts = items.find? accepts := by
  cases found : items.find? accepts with
  | none =>
      rw [List.find?_eq_none]
      intro item member
      obtain ⟨slot, -, holds⟩ := List.mem_filterMap.mp member
      simpa using find?_eq_none_iff_slots.mp found slot item holds
  | some item =>
      obtain ⟨slot, first⟩ := find?_eq_some_iff_firstAt.mp found
      have inside := only slot item first
      obtain ⟨holds, accepted, before⟩ := first
      clear only found
      induction slots with
      | nil => cases inside
      | cons head tail inductionHypothesis =>
          obtain ⟨smaller, rest⟩ := List.pairwise_cons.mp sorted
          rcases List.mem_cons.mp inside with same | later
          · subst same
            have front : selected items (slot :: tail) =
                item :: selected items tail :=
              List.filterMap_cons_some holds
            rw [front, List.find?_cons_of_pos accepted]
          · have less := smaller slot later
            have bound := (List.getElem?_eq_some_iff.mp holds).1
            have other : items[head]? = some items[head] :=
              List.getElem?_eq_getElem (Nat.lt_trans less bound)
            have rejected := before head less _ other
            have front : selected items (head :: tail) =
                items[head] :: selected items tail :=
              List.filterMap_cons_some other
            rw [front, List.find?_cons_of_neg (by simp [rejected])]
            exact inductionHypothesis rest later

end DeviceLib
