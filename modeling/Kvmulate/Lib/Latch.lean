import Kvmulate.Lib.Run

/-!
# What calls set and clear

A property that some calls of a machine set and others clear holds after a run
exactly when it was set and has not been cleared since.
-/

namespace DeviceLib

universe u

variable {State Input Response : Type u}

/-- In the run, `sets` has happened and `clears` has not happened since; `held`
stands for what was set before the run. -/
def Latched (call : Call State Input Response)
    (sets clears : State → Input → Prop) :
    Prop → State → List Input → Prop
  | held, _, [] => held
  | held, state, input :: rest =>
      ∀ response next, call state input = .ok (response, next) →
        Latched call sets clears
          (sets state input ∨ held ∧ ¬ clears state input) next rest

/-- `event` has happened in the run. -/
def Happened (call : Call State Input Response)
    (event : State → Input → Prop) (state : State)
    (inputs : List Input) : Prop :=
  Latched call event (fun _ _ => False) False state inputs

section Latched

variable {call : Call State Input Response}
variable {sets clears : State → Input → Prop}

/-- The first call of the run returns, and it is the only one to look at. -/
theorem latched_cons_iff {state next : State} {input : Input}
    {response : Response} {rest : List Input} {held : Prop}
    (called : call state input = .ok (response, next)) :
    Latched call sets clears held state (input :: rest) ↔
      Latched call sets clears
        (sets state input ∨ held ∧ ¬ clears state input) next rest := by
  constructor
  · intro latched
    exact latched response next called
  · intro latched response' next' called'
    rw [called] at called'
    cases called'
    exact latched

theorem latched_congr {first second : Prop} (same : first ↔ second)
    {state : State} {inputs : List Input} :
    Latched call sets clears first state inputs ↔
      Latched call sets clears second state inputs := by
  rw [propext same]

/-- A property that every step sets or clears, or leaves as it was. -/
theorem latched_iff {Inv property : State → Prop}
    (preserved : ∀ {state input response next},
      Inv state → call state input = .ok (response, next) → Inv next)
    (latches : ∀ {state input response next},
      Inv state → call state input = .ok (response, next) →
        (property next ↔
          sets state input ∨ property state ∧ ¬ clears state input))
    {state final : State} {inputs : List Input}
    {responses : List Response} (initial : Inv state)
    (ran : run call state inputs = .ok (responses, final)) :
    property final ↔
      Latched call sets clears (property state) state inputs := by
  induction inputs generalizing state responses with
  | nil =>
      cases ran
      exact Iff.rfl
  | cons input rest inductionHypothesis =>
      obtain ⟨response, next, others, called, ranRest, -⟩ :=
        run_cons_eq_ok_iff.mp ran
      have later := inductionHypothesis (preserved initial called) ranRest
      rw [latched_cons_iff called, later]
      exact latched_congr (latches initial called)

/-- A property that steps establish and none takes back. -/
theorem happened_iff {Inv property : State → Prop}
    {event : State → Input → Prop}
    (preserved : ∀ {state input response next},
      Inv state → call state input = .ok (response, next) → Inv next)
    (establishes : ∀ {state input response next},
      Inv state → call state input = .ok (response, next) →
        (property next ↔ event state input ∨ property state))
    {state final : State} {inputs : List Input}
    {responses : List Response} (initial : Inv state)
    (not_yet : ¬ property state)
    (ran : run call state inputs = .ok (responses, final)) :
    property final ↔ Happened call event state inputs := by
  have latches : ∀ {state input response next},
      Inv state → call state input = .ok (response, next) →
        (property next ↔ event state input ∨ property state ∧ ¬ False) := by
    intro state input response next inv called
    rw [establishes inv called, not_false_eq_true, and_true]
  have latched := latched_iff preserved latches initial ran
  rw [latched]
  exact latched_congr (iff_of_false not_yet not_false)

end Latched

end DeviceLib
