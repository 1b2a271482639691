import Mathlib.Data.List.Basic

/-!
# Outcomes of a call

A call of C code returns, stops the process at a failed assertion, or touches
memory outside every object.  The last two are kept apart: the first is a
check that worked, the second one that is missing.
-/

namespace DeviceLib

universe u v

/-- The ways a call ends without returning. -/
inductive Stop where
  | abort
  | fault
deriving DecidableEq, Repr

/-- What a call delivers. -/
abbrev Outcome (α : Type u) := Except Stop α

namespace Outcome

variable {α β : Type u}

@[simp]
theorem pure_eq_ok (value : α) :
    (pure value : Outcome α) = .ok value := rfl

@[simp]
theorem ok_bind (value : α) (next : α → Outcome β) :
    ((.ok value : Outcome α) >>= next) = next value := rfl

@[simp]
theorem error_bind (stop : Stop) (next : α → Outcome β) :
    ((.error stop : Outcome α) >>= next) = .error stop := rfl

/-- A sequence returns exactly when both parts return. -/
theorem bind_eq_ok_iff
    {first : Outcome α} {next : α → Outcome β} {result : β} :
    (first >>= next) = .ok result ↔
      ∃ value, first = .ok value ∧ next value = .ok result := by
  cases first with
  | error stop =>
      simp
  | ok value =>
      simp

theorem map_eq_ok_iff {first : Outcome α} {convert : α → β} {result : β} :
    first.map convert = .ok result ↔
      ∃ value, first = .ok value ∧ convert value = result := by
  cases first with
  | error stop =>
      simp [Except.map]
  | ok value =>
      simp [Except.map]

/-- A call whose result is only passed on stops as the call itself does. -/
theorem bind_ok_eq_error_iff
    {first : Outcome α} {result : α → β} {stop : Stop} :
    (first >>= fun value => .ok (result value)) = .error stop ↔
      first = .error stop := by
  cases first with
  | error other =>
      simp
  | ok value =>
      simp

/-- The branch of a call that returned. -/
theorem of_ite_eq_ok {condition : Prop} [Decidable condition]
    {first second : Outcome α} {result : α}
    (called : (if condition then first else second) = .ok result) :
    condition ∧ first = .ok result ∨
      ¬ condition ∧ second = .ok result := by
  by_cases holds : condition
  · rw [if_pos holds] at called
    exact Or.inl ⟨holds, called⟩
  · rw [if_neg holds] at called
    exact Or.inr ⟨holds, called⟩

/-- What the call returns, if it returns, has the property. -/
def Ensures (property : α → Prop) (outcome : Outcome α) : Prop :=
  ∀ result, outcome = .ok result → property result

section Ensures

variable {property : α → Prop}

theorem ensures_ok {result : α} (holds : property result) :
    Ensures property (.ok result) := by
  intro other returned
  cases returned
  exact holds

theorem ensures_error {stop : Stop} : Ensures property (.error stop) := by
  intro other returned
  cases returned

theorem ensures_ite {condition : Prop} [Decidable condition]
    {first second : Outcome α} (one : Ensures property first)
    (other : Ensures property second) :
    Ensures property (if condition then first else second) := by
  by_cases holds : condition
  · rw [if_pos holds]
    exact one
  · rw [if_neg holds]
    exact other

theorem ensures_bind {first : Outcome β} {rest : β → Outcome α}
    (each : ∀ value, first = .ok value → Ensures property (rest value)) :
    Ensures property (first >>= rest) := by
  intro result returned
  rcases bind_eq_ok_iff.mp returned with ⟨value, before, later⟩
  exact each value before result later

end Ensures

/-- The call touches no memory outside its objects. -/
def Defined (outcome : Outcome α) : Prop :=
  outcome ≠ .error .fault

section Defined

theorem defined_ok {result : α} : Defined (.ok result) :=
  nofun

theorem defined_abort : Defined (.error .abort : Outcome α) :=
  nofun

theorem defined_ite {condition : Prop} [Decidable condition]
    {first second : Outcome α} (one : condition → Defined first)
    (other : ¬ condition → Defined second) :
    Defined (if condition then first else second) := by
  by_cases holds : condition
  · rw [if_pos holds]
    exact one holds
  · rw [if_neg holds]
    exact other holds

theorem defined_bind {first : Outcome β} {rest : β → Outcome α}
    (inside : Defined first)
    (each : ∀ value, first = .ok value → Defined (rest value)) :
    Defined (first >>= rest) := by
  cases reached : first with
  | error stop =>
      rw [reached] at inside
      cases stop with
      | abort => exact defined_abort
      | fault => exact absurd rfl inside
  | ok value => exact each value reached

end Defined

/-- The call is not stopped. -/
def Returns (outcome : Outcome α) : Prop :=
  ∃ result, outcome = .ok result

/-- What is done with the result does not stop the call. -/
theorem returns_bind_ok_iff {first : Outcome α} {result : α → β} :
    Returns (first >>= fun value => .ok (result value)) ↔
      Returns first := by
  cases first with
  | error stop =>
      exact iff_of_false (fun returns => nomatch returns)
        (fun returns => nomatch returns)
  | ok value => exact iff_of_true ⟨_, rfl⟩ ⟨_, rfl⟩

/-- A loop returns exactly when every pass returns, if the state does not
matter for that. -/
theorem returns_foldlM_iff {body : α → β → Outcome α}
    {inside : β → Prop}
    (each : ∀ state value, Returns (body state value) ↔ inside value)
    (values : List β) (state : α) :
    Returns (values.foldlM body state) ↔
      ∀ value ∈ values, inside value := by
  induction values generalizing state with
  | nil => exact iff_of_true ⟨state, rfl⟩ (List.forall_mem_nil inside)
  | cons value rest inductionHypothesis =>
      rw [List.foldlM_cons, List.forall_mem_cons, ← each state value]
      constructor
      · intro returns
        rcases returns with ⟨final, ran⟩
        rcases bind_eq_ok_iff.mp ran with ⟨next, first, others⟩
        exact
          ⟨⟨next, first⟩,
            (inductionHypothesis next).mp ⟨final, others⟩⟩
      · intro parts
        rcases parts with ⟨⟨next, first⟩, others⟩
        rcases (inductionHypothesis next).mpr others with ⟨final, ran⟩
        exact ⟨final, bind_eq_ok_iff.mpr ⟨next, first, ran⟩⟩

/-- A check of the C code: `ASSERT(condition, ..)`. -/
def assert (condition : Prop) [Decidable condition] : Outcome PUnit.{u + 1} :=
  if condition then .ok ⟨⟩ else .error .abort

/-- A memory access that is defined only where `condition` holds. -/
def guard (condition : Prop) [Decidable condition] : Outcome PUnit.{u + 1} :=
  if condition then .ok ⟨⟩ else .error .fault

theorem assert_of {condition : Prop} [Decidable condition]
    (holds : condition) : assert.{u} condition = .ok ⟨⟩ :=
  if_pos holds

theorem assert_of_not {condition : Prop} [Decidable condition]
    (fails : ¬ condition) : assert.{u} condition = .error .abort :=
  if_neg fails

theorem guard_of {condition : Prop} [Decidable condition]
    (holds : condition) : guard.{u} condition = .ok ⟨⟩ :=
  if_pos holds

theorem guard_of_not {condition : Prop} [Decidable condition]
    (fails : ¬ condition) : guard.{u} condition = .error .fault :=
  if_neg fails

@[simp]
theorem guard_true [Decidable True] :
    guard.{u} True = .ok ⟨⟩ := guard_of trivial

@[simp]
theorem guard_false [Decidable False] :
    guard.{u} False = .error .fault := guard_of_not not_false

@[simp]
theorem assert_eq_ok_iff {condition : Prop} [Decidable condition]
    {result : PUnit.{u + 1}} :
    assert.{u} condition = .ok result ↔ condition := by
  by_cases holds : condition
  · simp [assert, holds]
  · simp [assert, holds]

@[simp]
theorem guard_eq_ok_iff {condition : Prop} [Decidable condition]
    {result : PUnit.{u + 1}} :
    guard.{u} condition = .ok result ↔ condition := by
  by_cases holds : condition
  · simp [guard, holds]
  · simp [guard, holds]

end Outcome

end DeviceLib
