import Kvmulate.Lib.Indexed
import Kvmulate.Lib.Run

/-!
# When a call touches memory outside every object

A rule for each construct of a call says when exactly it faults, from when its
parts do.  A run faults where it reaches a call that does.
-/

namespace DeviceLib

universe u

variable {α β : Type u}

/-- A sequence stops where its first part does, or the second one behind
it. -/
theorem Outcome.bind_eq_error_iff {first : Outcome β}
    {next : β → Outcome α} {stop : Stop} :
    (first >>= next) = .error stop ↔
      first = .error stop ∨
        ∃ value, first = .ok value ∧ next value = .error stop := by
  cases first with
  | error other => simp
  | ok value => simp

theorem Outcome.defined_assert {condition : Prop} [Decidable condition] :
    (Outcome.assert condition).Defined := by
  by_cases holds : condition
  · rw [Outcome.assert_of holds]
    exact Outcome.defined_ok
  · rw [Outcome.assert_of_not holds]
    exact Outcome.defined_abort

/-- The call faults exactly under the condition. -/
def FaultsIff (outcome : Outcome α) (condition : Prop) : Prop :=
  outcome = .error .fault ↔ condition

namespace FaultsIff

theorem congr {outcome : Outcome α} {first second : Prop}
    (faults : FaultsIff outcome first) (same : first ↔ second) :
    FaultsIff outcome second :=
  Iff.trans faults same

theorem returns {result : α} : FaultsIff (.ok result) False :=
  iff_of_false nofun id

theorem aborts : FaultsIff (.error .abort : Outcome α) False :=
  iff_of_false nofun id

theorem faults : FaultsIff (.error .fault : Outcome α) True :=
  iff_of_true rfl trivial

theorem of_defined {outcome : Outcome α} (defined : outcome.Defined) :
    FaultsIff outcome False :=
  iff_of_false defined id

theorem defined {outcome : Outcome α} (never : FaultsIff outcome False) :
    outcome.Defined :=
  Iff.mp never

theorem ite {condition first second : Prop} [Decidable condition]
    {one other : Outcome α} (yes : condition → FaultsIff one first)
    (no : ¬ condition → FaultsIff other second) :
    FaultsIff (if condition then one else other)
      (condition ∧ first ∨ ¬ condition ∧ second) := by
  by_cases holds : condition
  · rw [if_pos holds]
    exact (yes holds).congr (by simp [holds])
  · rw [if_neg holds]
    exact (no holds).congr (by simp [holds])

theorem bind {first : Outcome β} {rest : β → Outcome α}
    {before after : Prop} (early : FaultsIff first before)
    (later : ∀ value, first = .ok value → FaultsIff (rest value) after)
    (goesOn : ¬ before → after → first.Returns) :
    FaultsIff (first >>= rest) (before ∨ after) := by
  by_cases holds : before
  · exact iff_of_true
      (Outcome.bind_eq_error_iff.mpr (Or.inl (early.mpr holds)))
      (Or.inl holds)
  refine Outcome.bind_eq_error_iff.trans (or_congr early ?_)
  constructor
  · rintro ⟨value, done, faulted⟩
    exact (later value done).mp faulted
  · intro behind
    obtain ⟨value, done⟩ := goesOn holds behind
    exact ⟨value, done, (later value done).mpr behind⟩

/-- Only the first part can fault. -/
theorem first {part : Outcome β} {rest : β → Outcome α} {before : Prop}
    (early : FaultsIff part before)
    (later : ∀ value, part = .ok value → (rest value).Defined) :
    FaultsIff (part >>= rest) before := by
  refine (Outcome.bind_eq_error_iff.trans (or_iff_left ?_)).trans early
  rintro ⟨value, done, faulted⟩
  exact later value done faulted

/-- The result is only passed on. -/
theorem map {outcome : Outcome α} {condition : Prop} {result : α → β}
    (faults : FaultsIff outcome condition) :
    FaultsIff (outcome >>= fun value => .ok (result value)) condition :=
  Outcome.bind_ok_eq_error_iff.trans faults

/-- What has no assertion faults where it does not return. -/
theorem of_ne_abort {outcome : Outcome α}
    (unchecked : outcome ≠ .error .abort) :
    FaultsIff outcome (¬ outcome.Returns) := by
  cases outcome with
  | ok value => exact returns.congr (iff_of_false id (· ⟨value, rfl⟩))
  | error stop =>
      cases stop with
      | abort => exact absurd rfl unchecked
      | fault =>
          refine faults.congr (iff_of_true trivial ?_)
          rintro ⟨value, done⟩
          cases done

theorem assert {condition after : Prop} [Decidable condition]
    {rest : Outcome α} (later : condition → FaultsIff rest after) :
    FaultsIff (Outcome.assert condition >>= fun _ => rest)
      (condition ∧ after) := by
  by_cases holds : condition
  · rw [Outcome.assert_of holds]
    exact (later holds).congr (by simp [holds])
  · rw [Outcome.assert_of_not holds]
    exact aborts.congr (by simp [holds])

theorem guard {condition : Prop} [Decidable condition] {rest : Outcome α}
    (later : FaultsIff rest False) :
    FaultsIff (Outcome.guard condition >>= fun _ => rest)
      (¬ condition) := by
  by_cases holds : condition
  · rw [Outcome.guard_of holds]
    exact later.congr (by simp [holds])
  · rw [Outcome.guard_of_not holds]
    exact faults.congr (by simp [holds])

end FaultsIff

theorem storeList_ne_abort {size : Nat} (array : Vector α size)
    (offset : Nat) (values : List α) :
    storeList array offset values ≠ .error .abort := by
  induction values generalizing array offset with
  | nil => exact nofun
  | cons value rest inductionHypothesis =>
      intro aborted
      rcases Outcome.bind_eq_error_iff.mp aborted with
        first | ⟨next, -, later⟩
      · unfold store at first
        split at first
        · cases first
        · cases first
      · exact inductionHypothesis next (offset + 1) later

theorem loadList_ne_abort {size : Nat} (array : Vector α size)
    (offset count : Nat) :
    loadList array offset count ≠ .error .abort := by
  intro aborted
  have checks := Outcome.bind_ok_eq_error_iff.mp aborted
  by_cases inside : offset + count ≤ size
  · rw [Outcome.guard_of inside] at checks
    cases checks
  · rw [Outcome.guard_of_not inside] at checks
    cases checks

/-! ## Runs -/

section Run

variable {State Input Response : Type u}
variable {call : Call State Input Response}

/-- A run goes on until a call faults, exactly when one that it reaches meets
the condition. -/
theorem run_faultsIff {Inv : State → Prop}
    {condition : State → Input → Prop}
    (preserved : ∀ {state input response next},
      Inv state → call state input = .ok (response, next) → Inv next)
    (each : ∀ {state input}, Inv state →
      FaultsIff (call state input) (condition state input))
    {state : State} {inputs : List Input} (initial : Inv state) :
    FaultsIff (run call state inputs)
      (∃ before input after responses reached,
        inputs = before ++ input :: after ∧
          run call state before = .ok (responses, reached) ∧
          condition reached input) := by
  induction inputs generalizing state with
  | nil =>
      refine FaultsIff.returns.congr (iff_of_false id ?_)
      rintro ⟨before, input, after, -, -, same, -⟩
      cases before <;> cases same
  | cons first rest inductionHypothesis =>
      have early := @each state first initial
      constructor
      · intro faults
        rcases Outcome.bind_eq_error_iff.mp faults with
          stopped | ⟨⟨response, next⟩, called, later⟩
        · exact ⟨[], first, rest, [], state, rfl, rfl, early.mp stopped⟩
        · have inner : run call next rest = .error .fault :=
            Outcome.bind_ok_eq_error_iff.mp later
          obtain ⟨before, input, after, responses, reached, same, ran,
            meets⟩ :=
            (inductionHypothesis (preserved initial called)).mp inner
          refine ⟨first :: before, input, after, response :: responses,
            reached, ?_, run_cons called ran, meets⟩
          rw [same]
          rfl
      · rintro ⟨before, input, after, responses, reached, same, ran, meets⟩
        cases before with
        | nil =>
            cases ran
            cases same
            exact Outcome.bind_eq_error_iff.mpr (Or.inl (early.mpr meets))
        | cons other others =>
            cases same
            obtain ⟨response, next, later, called, ranRest, -⟩ :=
              run_cons_eq_ok_iff.mp ran
            have inner : run call next (others ++ input :: after) =
                .error .fault :=
              (inductionHypothesis (preserved initial called)).mpr
                ⟨others, input, after, later, reached, rfl, ranRest, meets⟩
            exact Outcome.bind_eq_error_iff.mpr
              (Or.inr ⟨_, called, Outcome.bind_ok_eq_error_iff.mpr inner⟩)

end Run

end DeviceLib
