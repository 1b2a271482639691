import Kvmulate.Lib.Outcome

/-!
# Arrays behind unchecked indices

Loads and stores of a C array with a signed index.  Inside the array they
return, anywhere else they are faults.
-/

namespace DeviceLib

universe u

variable {α : Type u} {size : Nat}

/-- The index is one of the array. -/
def Indexes (size : Nat) (index : Int) : Prop :=
  0 ≤ index ∧ index < size

instance (size : Nat) (index : Int) : Decidable (Indexes size index) :=
  inferInstanceAs (Decidable (_ ∧ _))

/-- `array[index]` -/
def load (array : Vector α size) (index : Int) : Outcome α :=
  if inside : Indexes size index then
    .ok (array.get ⟨index.toNat, by
      have lower := inside.1
      have upper := inside.2
      omega⟩)
  else .error .fault

/-- `array[index] = value` -/
def store (array : Vector α size) (index : Int) (value : α) :
    Outcome (Vector α size) :=
  if Indexes size index then
    .ok (array.setIfInBounds index.toNat value)
  else .error .fault

theorem load_eq_fault_iff {array : Vector α size} {index : Int} :
    load array index = .error .fault ↔ ¬ Indexes size index := by
  unfold load
  by_cases inside : Indexes size index
  · simp [inside]
  · simp [inside]

theorem store_eq_fault_iff {array : Vector α size} {index : Int}
    {value : α} :
    store array index value = .error .fault ↔ ¬ Indexes size index := by
  unfold store
  by_cases inside : Indexes size index
  · simp [inside]
  · simp [inside]

theorem load_of_indexes {array : Vector α size} {index : Int}
    (inside : Indexes size index) :
    ∃ value, load array index = .ok value :=
  ⟨_, dif_pos inside⟩

theorem load_eq_ok_iff {array : Vector α size} {index : Nat} {value : α} :
    load array index = .ok value ↔ array.toList[index]? = some value := by
  unfold load
  by_cases inside : Indexes size (index : Int)
  · have bound : index < array.toList.length := by
      have upper := inside.2
      rw [Vector.length_toList]
      omega
    rw [dif_pos inside, List.getElem?_eq_getElem bound, Vector.getElem_toList]
    simp only [Except.ok.injEq, Option.some.injEq]
    rfl
  · have beyond : array.toList.length ≤ index := by
      rw [Vector.length_toList]
      by_contra few
      exact inside ⟨by omega, by omega⟩
    rw [dif_neg inside, List.getElem?_eq_none beyond]
    simp

/-- The element that was loaded ends the array up to the index. -/
theorem take_of_load {array : Vector α size} {index : Int} {value : α}
    (loaded : load array index = .ok value) :
    array.toList.take (index + 1).toNat =
      array.toList.take index.toNat ++ [value] := by
  have inside : Indexes size index := by
    by_contra outside
    rw [load_eq_fault_iff.mpr outside] at loaded
    cases loaded
  obtain ⟨position, rfl⟩ := Int.eq_ofNat_of_zero_le inside.1
  have found := load_eq_ok_iff.mp loaded
  have next : ((position : Int) + 1).toNat = position + 1 := by omega
  rw [next, Int.toNat_natCast, List.take_add_one, found]
  rfl

/-- The first of the elements that start at the index is loaded. -/
theorem load_of_drop {array : Vector α size} {index : Nat} {value : α}
    {rest : List α}
    (starts :
      (array.toList.drop index).take (rest.length + 1) = value :: rest) :
    load array index = .ok value := by
  have first := congrArg (fun list => list[0]?) starts
  simp only [List.getElem?_take_of_lt (Nat.succ_pos _),
    List.getElem?_drop, Nat.add_zero, List.getElem?_cons_zero] at first
  exact load_eq_ok_iff.mpr first

theorem store_of_indexes {array : Vector α size} {index : Int}
    {value : α} (inside : Indexes size index) :
    store array index value =
      .ok (array.setIfInBounds index.toNat value) :=
  if_pos inside

theorem indexes_of_store {array next : Vector α size} {index : Int}
    {value : α} (stored : store array index value = .ok next) :
    Indexes size index := by
  by_contra outside
  rw [store_eq_fault_iff.mpr outside] at stored
  cases stored

/-- What was stored ends the array up to the index. -/
theorem take_of_store {array next : Vector α size} {index : Int}
    {value : α} (stored : store array index value = .ok next) :
    next.toList.take (index + 1).toNat =
      array.toList.take index.toNat ++ [value] := by
  have inside := indexes_of_store stored
  have lower := inside.1
  have upper := inside.2
  have after : (index + 1).toNat = index.toNat + 1 := by omega
  have bound : index.toNat < array.toList.length := by
    rw [Vector.length_toList]
    omega
  rw [store_of_indexes inside] at stored
  cases stored
  have list :
      (array.setIfInBounds index.toNat value).toList =
        array.toList.set index.toNat value := by
    simp
  rw [after, list, List.take_succ_eq_append_getElem (by simpa using bound),
    List.take_set_of_le (Nat.le_refl _), List.getElem_set_self]

/-- A place that holds a value is inside. -/
theorem lt_of_getElem? {array : Vector α size} {index : Nat} {value : α}
    (shown : array.toList[index]? = some value) : index < size := by
  have bound := (List.getElem?_eq_some_iff.mp shown).1
  rwa [Vector.length_toList] at bound

/-- The place holds the value that was stored there. -/
theorem getElem?_stored (array : Vector α size) {index : Nat}
    (inside : index < size) (value : α) :
    (array.setIfInBounds index value).toList[index]? = some value := by
  rw [Vector.toList_setIfInBounds, List.getElem?_set_self]
  rwa [Vector.length_toList]

/-! ## Runs of elements -/

/-- Load the `count` elements from `offset` on. -/
def loadList (array : Vector α size) (offset count : Nat) :
    Outcome (List α) := do
  Outcome.guard (offset + count ≤ size)
  pure ((array.toList.drop offset).take count)

/-- Store elements from `offset` on, one after the other. -/
def storeList (array : Vector α size) (offset : Nat) :
    List α → Outcome (Vector α size)
  | [] => .ok array
  | value :: rest => do
      let next ← store array offset value
      storeList next (offset + 1) rest

theorem loadList_of_le {array : Vector α size} {offset count : Nat}
    (inside : offset + count ≤ size) :
    loadList array offset count =
      .ok ((array.toList.drop offset).take count) := by
  unfold loadList
  rw [Outcome.guard_of inside]
  rfl

theorem exists_loadList_iff {array : Vector α size} {offset count : Nat} :
    (∃ values, loadList array offset count = .ok values) ↔
      offset + count ≤ size := by
  constructor
  · rintro ⟨values, loaded⟩
    obtain ⟨_, checked, -⟩ := Outcome.bind_eq_ok_iff.mp loaded
    exact Outcome.guard_eq_ok_iff.mp checked
  · intro inside
    exact ⟨_, loadList_of_le inside⟩

theorem exists_storeList_of_le {array : Vector α size} {offset : Nat}
    {values : List α} (fits : offset + values.length ≤ size) :
    ∃ next, storeList array offset values = .ok next := by
  induction values generalizing array offset with
  | nil =>
      exact ⟨array, rfl⟩
  | cons value rest inductionHypothesis =>
      rw [List.length_cons] at fits
      have inside : Indexes size (offset : Int) :=
        ⟨by omega, by omega⟩
      have head := @store_of_indexes _ _ array offset value inside
      obtain ⟨next, tail⟩ :=
        @inductionHypothesis (array.setIfInBounds _ value) (offset + 1)
          (by omega)
      exact ⟨next, Outcome.bind_eq_ok_iff.mpr ⟨_, head, tail⟩⟩

/-- Only the elements from `offset` on are replaced. -/
theorem toList_of_storeList {array next : Vector α size} {offset : Nat}
    {values : List α}
    (stored : storeList array offset values = .ok next) :
    next.toList =
      array.toList.take offset ++
        (values ++ array.toList.drop (offset + values.length)) := by
  induction values generalizing array offset with
  | nil =>
      cases stored
      exact (List.take_append_drop offset next.toList).symm
  | cons value rest inductionHypothesis =>
      obtain ⟨first, head, tail⟩ := Outcome.bind_eq_ok_iff.mp stored
      have front := take_of_store head
      have back :
          first.toList.drop (offset + 1 + rest.length) =
            array.toList.drop (offset + 1 + rest.length) := by
        rw [store_of_indexes (indexes_of_store head)] at head
        cases head
        have list :
            (array.setIfInBounds (offset : Int).toNat value).toList =
              array.toList.set offset value := by
          simp
        rw [list, List.drop_set_of_lt (by omega)]
      have here : ((offset : Int) + 1).toNat = offset + 1 := by omega
      rw [here, Int.toNat_natCast] at front
      rw [inductionHypothesis tail, front, back, List.length_cons,
        Nat.add_assoc offset, Nat.add_comm 1, List.append_assoc]
      rfl

/-- A patch is found where it was put, and the rest around it. -/
theorem getElem?_patched {list patch : List α} {start : Nat}
    (inside : start + patch.length ≤ list.length) (index : Nat) :
    (list.take start ++
        (patch ++ list.drop (start + patch.length)))[index]? =
      if start ≤ index ∧ index < start + patch.length then
        patch[index - start]?
      else list[index]? := by
  have before : (list.take start).length = start := by
    rw [List.length_take]
    omega
  by_cases patched : start ≤ index ∧ index < start + patch.length
  · rw [if_pos patched, List.getElem?_append_right (by omega), before,
      List.getElem?_append_left (by omega)]
  · rw [if_neg patched]
    by_cases front : index < start
    · rw [List.getElem?_append_left (by omega),
        List.getElem?_take_of_lt front]
    · rw [List.getElem?_append_right (by omega), before,
        List.getElem?_append_right (by omega), List.getElem?_drop]
      congr 1
      omega

theorem getElem?_of_storeList {array next : Vector α size} {offset : Nat}
    {values : List α}
    (stored : storeList array offset values = .ok next)
    (inside : offset + values.length ≤ size) (index : Nat) :
    next.toList[index]? =
      if offset ≤ index ∧ index < offset + values.length then
        values[index - offset]?
      else array.toList[index]? := by
  rw [toList_of_storeList stored]
  exact getElem?_patched (by rwa [Vector.length_toList]) index

/-- The last element is the one that has to fit. -/
theorem exists_storeList_iff {array : Vector α size} {offset : Nat}
    {values : List α} (some : values ≠ []) :
    (∃ next, storeList array offset values = .ok next) ↔
      offset + values.length ≤ size := by
  induction values generalizing array offset with
  | nil =>
      exact absurd rfl some
  | cons value rest inductionHypothesis =>
      rw [List.length_cons]
      constructor
      · rintro ⟨next, stored⟩
        obtain ⟨first, head, tail⟩ := Outcome.bind_eq_ok_iff.mp stored
        have upper := (indexes_of_store head).2
        by_cases last : rest = []
        · rw [last, List.length_nil]
          omega
        · have fits := (inductionHypothesis last).mp ⟨next, tail⟩
          omega
      · intro fits
        exact exists_storeList_of_le fits

end DeviceLib
