import Kvmulate.Lib.Bytes

/-!
# Tables that fill from the front

A table of a fixed size whose entries are never removed: first come the
entries, in the order in which they were added, then the free slots.
-/

namespace DeviceLib

universe u

variable {α : Type u} {size : Nat} {entries : List α}

/-- The slots of a table that holds `entries`. -/
def slots (size : Nat) (entries : List α) : List (Option α) :=
  entries.map some ++ List.replicate (size - entries.length) none

theorem mem_slots_iff {entry : α} :
    some entry ∈ slots size entries ↔ entry ∈ entries := by
  unfold slots
  rw [List.mem_append]
  constructor
  · rintro (used | free)
    · simpa using used
    · cases List.eq_of_mem_replicate free
  · intro member
    exact Or.inl (List.mem_map_of_mem member)

theorem findIdx?_map_some :
    (entries.map some).findIdx? Option.isNone = none := by
  rw [List.findIdx?_eq_none_iff]
  intro slot used
  obtain ⟨entry, -, rfl⟩ := List.mem_map.mp used
  rfl

/-- The first free slot is the one behind the entries. -/
theorem findIdx?_slots (room : entries.length < size) :
    (slots size entries).findIdx? Option.isNone = some entries.length := by
  have free :
      List.replicate (size - entries.length) (none : Option α) =
        none :: List.replicate (size - entries.length - 1) none := by
    rw [← List.replicate_succ]
    congr 1
    omega
  unfold slots
  rw [List.findIdx?_append, findIdx?_map_some, free, List.findIdx?_cons,
    List.length_map]
  simp

/-- A full table has no free slot. -/
theorem findIdx?_slots_full (full : size ≤ entries.length) :
    (slots size entries).findIdx? Option.isNone = none := by
  unfold slots
  rw [Nat.sub_eq_zero_of_le full, List.replicate_zero, List.append_nil,
    findIdx?_map_some]

/-- Filling the first free slot adds an entry. -/
theorem set_slots (room : entries.length < size) (entry : α) :
    (slots size entries).set entries.length (some entry) =
      slots size (entries ++ [entry]) := by
  have free :
      List.replicate (size - entries.length) (none : Option α) =
        none ::
          List.replicate (size - (entries ++ [entry]).length) none := by
    rw [← List.replicate_succ, List.length_append, List.length_singleton]
    congr 1
    omega
  have here : (entries.map some).length = entries.length :=
    List.length_map _
  unfold slots
  rw [free, List.set_append_right _ _ (by omega), here, Nat.sub_self,
    List.set_cons_zero, List.map_append, List.append_assoc]
  rfl

/-- A search through the slots is one through the entries. -/
theorem findSome?_slots (wanted : α → Bool) :
    (slots size entries).findSome? (Option.filter wanted) =
      entries.find? wanted := by
  have nothing :
      (List.replicate (size - entries.length) none).findSome?
        (Option.filter wanted) = none := by
    rw [List.findSome?_eq_none_iff]
    intro slot free
    rw [List.eq_of_mem_replicate free]
    rfl
  unfold slots
  rw [List.findSome?_append, nothing, Option.or_none,
    List.findSome?_map, List.find?_eq_findSome?_guard]
  rfl

/-- Where no two entries answer to one key, the search finds the entry that
has the key. -/
theorem find?_key_eq_some_iff {κ : Type u} [DecidableEq κ] {key : α → κ}
    {wanted : κ} {entry : α}
    (apart : ∀ first ∈ entries, ∀ second ∈ entries,
      key first = key second → first = second) :
    entries.find? (fun other => key other = wanted) = some entry ↔
      entry ∈ entries ∧ key entry = wanted := by
  constructor
  · intro found
    exact ⟨List.mem_of_find?_eq_some found, by
      simpa using List.find?_some found⟩
  · rintro ⟨member, has⟩
    obtain ⟨other, found⟩ :
        ∃ other,
          entries.find? (fun other => key other = wanted) = some other := by
      rw [← Option.isSome_iff_exists, List.find?_isSome]
      exact ⟨entry, member, by simpa using has⟩
    have same : key other = wanted := by
      simpa using List.find?_some found
    rw [found, apart other (List.mem_of_find?_eq_some found) entry member
      (same.trans has.symm)]

end DeviceLib
