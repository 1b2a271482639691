import Kvmulate.Lib.Outcome

/-!
# Runs of a machine that answers calls

A machine is a function from a state and an input to a response and the next
state.  A run ends early where a call does not return.
-/

namespace DeviceLib

universe u v w

variable {State Input Response History : Type u}

/-- One call of a machine. -/
abbrev Call (State Input Response : Type u) :=
  State → Input → Outcome (Response × State)

/-- Answer the inputs one after the other, keeping the responses. -/
def run (call : Call State Input Response) (state : State) :
    List Input → Outcome (List Response × State)
  | [] => .ok ([], state)
  | input :: rest => do
      let (response, next) ← call state input
      let (responses, final) ← run call next rest
      pure (response :: responses, final)

section Run

variable {call : Call State Input Response}

/-- The first call of a run returns, and so does the run of the rest. -/
theorem run_cons_eq_ok_iff
    {state final : State} {input : Input} {rest : List Input}
    {responses : List Response} :
    run call state (input :: rest) = .ok (responses, final) ↔
      ∃ response next others,
        call state input = .ok (response, next) ∧
          run call next rest = .ok (others, final) ∧
            responses = response :: others := by
  simp only [run, Outcome.bind_eq_ok_iff, Outcome.pure_eq_ok,
    Except.ok.injEq, Prod.mk.injEq, Prod.exists]
  constructor
  · rintro ⟨response, next, called, others, _, ran, rfl, rfl⟩
    exact ⟨response, next, others, called, ran, rfl⟩
  · rintro ⟨response, next, others, called, ran, rfl⟩
    exact ⟨response, next, called, others, final, ran, rfl, rfl⟩

/-- A call in front of a run. -/
theorem run_cons {state next final : State} {input : Input}
    {rest : List Input} {response : Response} {others : List Response}
    (called : call state input = .ok (response, next))
    (ran : run call next rest = .ok (others, final)) :
    run call state (input :: rest) = .ok (response :: others, final) :=
  run_cons_eq_ok_iff.mpr ⟨response, next, others, called, ran, rfl⟩

theorem run_one {state next : State} {input : Input} {response : Response}
    (called : call state input = .ok (response, next)) :
    run call state [input] = .ok ([response], next) :=
  run_cons called rfl

/-- A run delivers a response for each input. -/
theorem length_of_run {state final : State} {inputs : List Input}
    {responses : List Response}
    (ran : run call state inputs = .ok (responses, final)) :
    responses.length = inputs.length := by
  induction inputs generalizing state responses with
  | nil =>
      cases ran
      rfl
  | cons input rest inductionHypothesis =>
      obtain ⟨response, next, others, -, ranRest, rfl⟩ :=
        run_cons_eq_ok_iff.mp ran
      exact congrArg (· + 1) (inductionHypothesis ranRest)

/-- A run splits at any point of its inputs. -/
theorem run_append_eq_ok_iff
    {state final : State} {first second : List Input}
    {responses : List Response} :
    run call state (first ++ second) = .ok (responses, final) ↔
      ∃ middle before after,
        run call state first = .ok (before, middle) ∧
          run call middle second = .ok (after, final) ∧
            responses = before ++ after := by
  induction first generalizing state responses with
  | nil =>
      constructor
      · intro ran
        exact ⟨state, [], responses, rfl, ran, rfl⟩
      · rintro ⟨middle, before, after, ranFirst, ranSecond, rfl⟩
        cases ranFirst
        exact ranSecond
  | cons input rest inductionHypothesis =>
      simp only [List.cons_append, run_cons_eq_ok_iff,
        inductionHypothesis]
      constructor
      · rintro ⟨response, next, _, called,
          ⟨middle, before, after, ranFirst, ranSecond, rfl⟩, rfl⟩
        exact ⟨middle, response :: before, after,
          ⟨response, next, before, called, ranFirst, rfl⟩,
          ranSecond, rfl⟩
      · rintro ⟨middle, _, after,
          ⟨response, next, before, called, ranFirst, rfl⟩,
          ranSecond, rfl⟩
        exact ⟨response, next, before ++ after, called,
          ⟨middle, before, after, ranFirst, ranSecond, rfl⟩, rfl⟩

/-- A run behind another one. -/
theorem run_append {state middle final : State}
    {first second : List Input} {before after : List Response}
    (ranFirst : run call state first = .ok (before, middle))
    (ranSecond : run call middle second = .ok (after, final)) :
    run call state (first ++ second) = .ok (before ++ after, final) :=
  run_append_eq_ok_iff.mpr
    ⟨middle, before, after, ranFirst, ranSecond, rfl⟩

/-- One more call at the end of a run. -/
theorem run_snoc_eq_ok_iff
    {state final : State} {inputs : List Input} {input : Input}
    {responses : List Response} :
    run call state (inputs ++ [input]) = .ok (responses, final) ↔
      ∃ middle before response,
        run call state inputs = .ok (before, middle) ∧
          call middle input = .ok (response, final) ∧
            responses = before ++ [response] := by
  rw [run_append_eq_ok_iff]
  constructor
  · rintro ⟨middle, before, after, ranFirst, ranLast, rfl⟩
    obtain ⟨response, next, others, called, done, rfl⟩ :=
      run_cons_eq_ok_iff.mp ranLast
    cases done
    exact ⟨middle, before, response, ranFirst, called, rfl⟩
  · rintro ⟨middle, before, response, ranFirst, called, rfl⟩
    exact ⟨middle, before, [response], ranFirst, run_one called, rfl⟩

/-- What every call preserves, every run preserves. -/
theorem run_invariant {Inv : State → Prop}
    (preserved : ∀ {state input response next},
      Inv state → call state input = .ok (response, next) → Inv next)
    {state final : State} {inputs : List Input}
    {responses : List Response} (initial : Inv state)
    (ran : run call state inputs = .ok (responses, final)) :
    Inv final := by
  induction inputs generalizing state responses with
  | nil =>
      cases ran
      exact initial
  | cons input rest inductionHypothesis =>
      obtain ⟨response, next, others, called, ranRest, -⟩ :=
        run_cons_eq_ok_iff.mp ran
      exact inductionHypothesis (preserved initial called) ranRest

end Run

/-- `property` holds in every state that the run visits, the first and the
last included. -/
def Throughout (call : Call State Input Response)
    (property : State → Prop) (state : State) : List Input → Prop
  | [] => property state
  | input :: rest =>
      property state ∧
        ∀ response next, call state input = .ok (response, next) →
          Throughout call property next rest

/-- `condition` holds of every call that the run attempts. -/
def StepsMeet (call : Call State Input Response)
    (condition : State → Input → Prop) (state : State) :
    List Input → Prop
  | [] => True
  | input :: rest =>
      condition state input ∧
        ∀ response next, call state input = .ok (response, next) →
          StepsMeet call condition next rest

section Whole

variable {call : Call State Input Response}

theorem Throughout.head {property : State → Prop} {state : State}
    {inputs : List Input} (always : Throughout call property state inputs) :
    property state := by
  cases inputs with
  | nil => exact always
  | cons => exact always.1

/-- What holds throughout a run holds throughout its last part. -/
theorem Throughout.of_append {property : State → Prop}
    {first second : List Input} {state middle : State}
    {responses : List Response}
    (always : Throughout call property state (first ++ second))
    (ran : run call state first = .ok (responses, middle)) :
    Throughout call property middle second := by
  induction first generalizing state responses with
  | nil =>
      cases ran
      exact always
  | cons input rest inductionHypothesis =>
      obtain ⟨response, next, others, called, ranRest, -⟩ :=
        run_cons_eq_ok_iff.mp ran
      exact inductionHypothesis (always.2 response next called) ranRest

/-- The last part of a run meets what the whole run meets. -/
theorem StepsMeet.of_append {condition : State → Input → Prop}
    {first second : List Input} {state middle : State}
    {responses : List Response}
    (met : StepsMeet call condition state (first ++ second))
    (ran : run call state first = .ok (responses, middle)) :
    StepsMeet call condition middle second := by
  induction first generalizing state responses with
  | nil =>
      cases ran
      exact met
  | cons input rest inductionHypothesis =>
      obtain ⟨response, next, others, called, ranRest, -⟩ :=
        run_cons_eq_ok_iff.mp ran
      exact inductionHypothesis (met.2 response next called) ranRest

/-- A call that returns, with the run behind it. -/
theorem stepsMeet_cons_iff {condition : State → Input → Prop}
    {input : Input} {rest : List Input} {state next : State}
    {response : Response}
    (called : call state input = .ok (response, next)) :
    StepsMeet call condition state (input :: rest) ↔
      condition state input ∧ StepsMeet call condition next rest := by
  refine and_congr_right fun _ => ⟨fun every => every response next called,
    fun met response' next' called' => ?_⟩
  rw [called] at called'
  cases called'
  exact met

/-- The steps of two runs, one behind the other. -/
theorem stepsMeet_append {condition : State → Input → Prop}
    {first second : List Input} {state middle : State}
    {responses : List Response}
    (ran : run call state first = .ok (responses, middle))
    (firstMet : StepsMeet call condition state first)
    (secondMet : StepsMeet call condition middle second) :
    StepsMeet call condition state (first ++ second) := by
  induction first generalizing state responses with
  | nil =>
      cases ran
      exact secondMet
  | cons input rest inductionHypothesis =>
      obtain ⟨response, next, others, called, ranRest, -⟩ :=
        run_cons_eq_ok_iff.mp ran
      have split := (stepsMeet_cons_iff called).mp firstMet
      exact (stepsMeet_cons_iff called).mpr
        ⟨split.1, inductionHypothesis ranRest split.2⟩

/-- A preserved invariant that implies `property` gives it throughout. -/
theorem throughout_of_invariant {Inv property : State → Prop}
    (preserved : ∀ {state input response next},
      Inv state → call state input = .ok (response, next) → Inv next)
    (implies : ∀ {state}, Inv state → property state) :
    ∀ {inputs : List Input} {state : State}, Inv state →
      Throughout call property state inputs
  | [], _, initial => implies initial
  | _ :: _, _, initial =>
      ⟨implies initial, fun _ _ called =>
        throughout_of_invariant preserved implies
          (preserved initial called)⟩

/-- An invariant that only accepted inputs preserve holds throughout every run
of accepted inputs. -/
theorem throughout_of_stepsMeet {Inv property : State → Prop}
    {accepted : State → Input → Prop}
    (preserved : ∀ {state input response next},
      Inv state → accepted state input →
        call state input = .ok (response, next) → Inv next)
    (implies : ∀ {state}, Inv state → property state) :
    ∀ {inputs : List Input} {state : State}, Inv state →
      StepsMeet call accepted state inputs →
        Throughout call property state inputs
  | [], _, initial, _ => implies initial
  | _ :: _, _, initial, met =>
      ⟨implies initial, fun response next called =>
        throughout_of_stepsMeet preserved implies
          (preserved initial met.1 called) (met.2 response next called)⟩

/-- Where an accepted input is answered exactly under `condition`, a run of
accepted inputs returns exactly when all its steps meet the condition. -/
theorem run_returns_iff_stepsMeet {Inv : State → Prop}
    {accepted condition : State → Input → Prop}
    (preserved : ∀ {state input response next},
      Inv state → accepted state input →
        call state input = .ok (response, next) → Inv next)
    (answered : ∀ {state input}, Inv state → accepted state input →
      ((∃ response next, call state input = .ok (response, next)) ↔
        condition state input))
    {inputs : List Input} {state : State} (initial : Inv state)
    (met : StepsMeet call accepted state inputs) :
    (∃ responses final, run call state inputs = .ok (responses, final)) ↔
      StepsMeet call condition state inputs := by
  induction inputs generalizing state with
  | nil =>
      exact iff_of_true ⟨[], state, rfl⟩ trivial
  | cons input rest inductionHypothesis =>
      constructor
      · rintro ⟨responses, final, ran⟩
        obtain ⟨response, next, others, called, ranRest, -⟩ :=
          run_cons_eq_ok_iff.mp ran
        refine ⟨(answered initial met.1).mp ⟨response, next, called⟩, ?_⟩
        intro response' next' called'
        rw [called] at called'
        cases called'
        exact (inductionHypothesis (preserved initial met.1 called)
          (met.2 response next called)).mp ⟨others, final, ranRest⟩
      · rintro ⟨holds, restMet⟩
        obtain ⟨response, next, called⟩ :=
          (answered initial met.1).mpr holds
        obtain ⟨others, final, ranRest⟩ :=
          (inductionHypothesis (preserved initial met.1 called)
            (met.2 response next called)).mpr
              (restMet response next called)
        exact ⟨response :: others, final, run_cons called ranRest⟩

/-- Conditions that agree on the states of an invariant are met by the same
runs. -/
theorem stepsMeet_congr {Inv : State → Prop}
    {first second : State → Input → Prop}
    (preserved : ∀ {state input response next},
      Inv state → call state input = .ok (response, next) → Inv next)
    (agree : ∀ {state input}, Inv state →
      (first state input ↔ second state input)) :
    ∀ {inputs : List Input} {state : State}, Inv state →
      (StepsMeet call first state inputs ↔
        StepsMeet call second state inputs)
  | [], _, _ => Iff.rfl
  | _ :: _, _, initial =>
      and_congr (agree initial) <|
        forall_congr' fun _ => forall_congr' fun _ =>
          imp_congr_right fun called =>
            stepsMeet_congr preserved agree (preserved initial called)

/-- In a run that returns, `property` holds throughout exactly when every step
meets the condition under which it is kept. -/
theorem throughout_iff_stepsMeet {Inv property : State → Prop}
    {condition : State → Input → Prop}
    (preserved : ∀ {state input response next},
      Inv state → call state input = .ok (response, next) → Inv next)
    (kept : ∀ {state input response next},
      Inv state → property state →
        call state input = .ok (response, next) →
          (property next ↔ condition state input))
    {inputs : List Input} {state final : State}
    {responses : List Response} (initial : Inv state)
    (starts : property state)
    (ran : run call state inputs = .ok (responses, final)) :
    Throughout call property state inputs ↔
      StepsMeet call condition state inputs := by
  induction inputs generalizing state responses with
  | nil =>
      exact iff_of_true starts trivial
  | cons input rest inductionHypothesis =>
      obtain ⟨response, next, others, called, ranRest, -⟩ :=
        run_cons_eq_ok_iff.mp ran
      have only : ∀ {motive : Response → State → Prop},
          (∀ response' next',
            call state input = .ok (response', next') →
              motive response' next') ↔ motive response next := by
        intro motive
        constructor
        · intro every
          exact every response next called
        · intro holds response' next' called'
          rw [called] at called'
          cases called'
          exact holds
      have nextKept := kept initial starts called
      simp only [Throughout, StepsMeet, only]
      constructor
      · rintro ⟨-, always⟩
        have holds := always.head
        exact ⟨nextKept.mp holds,
          (inductionHypothesis (preserved initial called)
            holds ranRest).mp always⟩
      · rintro ⟨met, restMet⟩
        have holds := nextKept.mpr met
        exact ⟨starts,
          (inductionHypothesis (preserved initial called)
            holds ranRest).mpr restMet⟩

/-- Where the condition says exactly when a step keeps `property`, the property
holds throughout a run exactly when every step meets the condition. -/
theorem throughout_iff_of_exact {property : State → Prop}
    {condition : State → Input → Prop}
    (exactly : ∀ {state input}, property state →
      (condition state input ↔
        ∀ response next, call state input = .ok (response, next) →
          property next))
    {inputs : List Input} {state : State} (starts : property state) :
    Throughout call property state inputs ↔
      StepsMeet call condition state inputs := by
  induction inputs generalizing state with
  | nil =>
      exact iff_of_true starts trivial
  | cons input rest inductionHypothesis =>
      constructor
      · rintro ⟨-, always⟩
        have kept : ∀ response next,
            call state input = .ok (response, next) → property next :=
          fun response next called => (always response next called).head
        refine ⟨(exactly starts).mpr kept, fun response next called => ?_⟩
        exact (inductionHypothesis (kept response next called)).mp
          (always response next called)
      · rintro ⟨met, restMet⟩
        refine ⟨starts, fun response next called => ?_⟩
        have holds := (exactly starts).mp met response next called
        exact (inductionHypothesis holds).mpr
          (restMet response next called)

/-- Where a step off `condition` breaks `property` and a step that meets it
keeps an invariant, both properties hold of the whole run exactly when every
step meets the condition. -/
theorem kept_iff_stepsMeet {Inv property : State → Prop}
    {demand condition : State → Input → Prop}
    (preserved : ∀ {state input response next},
      Inv state → condition state input →
        call state input = .ok (response, next) → Inv next)
    (implies : ∀ {state}, Inv state → property state)
    (demanded : ∀ {state input}, Inv state → demand state input)
    (broken : ∀ {state input}, Inv state → ¬ condition state input →
      ∃ response next, call state input = .ok (response, next) ∧
        ¬ property next)
    {inputs : List Input} {state : State} (initial : Inv state) :
    StepsMeet call demand state inputs ∧
        Throughout call property state inputs ↔
      StepsMeet call condition state inputs := by
  induction inputs generalizing state with
  | nil =>
      exact iff_of_true ⟨trivial, implies initial⟩ trivial
  | cons input rest inductionHypothesis =>
      constructor
      · rintro ⟨⟨-, restDemand⟩, -, restAlways⟩
        by_cases met : condition state input
        · refine ⟨met, fun response next called => ?_⟩
          exact (inductionHypothesis (preserved initial met called)).mp
            ⟨restDemand response next called,
              restAlways response next called⟩
        · obtain ⟨response, next, called, breaks⟩ := broken initial met
          exact absurd (restAlways response next called).head breaks
      · rintro ⟨met, restMet⟩
        have both : ∀ response next,
            call state input = .ok (response, next) →
              StepsMeet call demand next rest ∧
                Throughout call property next rest := by
          intro response next called
          exact (inductionHypothesis (preserved initial met called)).mpr
            (restMet response next called)
        exact ⟨⟨demanded initial,
            fun response next called => (both response next called).1⟩,
          implies initial,
            fun response next called => (both response next called).2⟩

end Whole

/-! ## Events that happen at most once -/

/-- No `event` happens before the next `separator`. -/
def QuietUntil (call : Call State Input Response)
    (separator event : State → Input → Prop) (state : State) :
    List Input → Prop
  | [] => True
  | input :: rest =>
      ¬ event state input ∧
        (separator state input ∨
          ∀ response next, call state input = .ok (response, next) →
            QuietUntil call separator event next rest)

/-- Between two `event`s there is a `separator`. -/
def Separated (call : Call State Input Response)
    (separator event : State → Input → Prop) (state : State) :
    List Input → Prop
  | [] => True
  | input :: rest =>
      (event state input →
        ∀ response next, call state input = .ok (response, next) →
          QuietUntil call separator event next rest) ∧
        ∀ response next, call state input = .ok (response, next) →
          Separated call separator event next rest

section Separated

variable {call : Call State Input Response}
variable {Inv Spent : State → Prop}
variable {separator event : State → Input → Prop}

theorem quietUntil_of_spent
    (preserved : ∀ {state input response next},
      Inv state → call state input = .ok (response, next) → Inv next)
    (quiet : ∀ {state input}, Inv state → Spent state →
      ¬ event state input)
    (kept : ∀ {state input response next},
      Inv state → Spent state → ¬ separator state input →
        call state input = .ok (response, next) → Spent next) :
    ∀ {inputs : List Input} {state : State}, Inv state → Spent state →
      QuietUntil call separator event state inputs
  | [], _, _, _ => trivial
  | input :: _, state, initial, spent => by
      refine ⟨quiet initial spent, ?_⟩
      by_cases separates : separator state input
      · exact Or.inl separates
      · refine Or.inr fun response next called => ?_
        exact quietUntil_of_spent preserved quiet kept
          (preserved initial called)
          (kept initial spent separates called)

/-- An event that spends its occasion, which only a separator renews, happens
at most once between two separators. -/
theorem separated_of_spent
    (preserved : ∀ {state input response next},
      Inv state → call state input = .ok (response, next) → Inv next)
    (spends : ∀ {state input response next},
      Inv state → event state input →
        call state input = .ok (response, next) → Spent next)
    (quiet : ∀ {state input}, Inv state → Spent state →
      ¬ event state input)
    (kept : ∀ {state input response next},
      Inv state → Spent state → ¬ separator state input →
        call state input = .ok (response, next) → Spent next) :
    ∀ {inputs : List Input} {state : State}, Inv state →
      Separated call separator event state inputs
  | [], _, _ => trivial
  | _ :: _, _, initial =>
      ⟨fun happens _ _ called =>
        quietUntil_of_spent preserved quiet kept
          (preserved initial called) (spends initial happens called),
        fun _ _ called =>
          separated_of_spent preserved spends quiet kept
            (preserved initial called)⟩

/-- After an `event` no `misuse` comes before the next `separator`. -/
def Renewed (call : Call State Input Response)
    (event separator misuse : State → Input → Prop) (state : State) :
    List Input → Prop
  | [] => True
  | input :: rest =>
      (event state input →
        ∀ response next, call state input = .ok (response, next) →
          QuietUntil call separator misuse next rest) ∧
        ∀ response next, call state input = .ok (response, next) →
          Renewed call event separator misuse next rest

/-- What a state that events lead into and separators lead out of must not
see, no event may be followed by. -/
theorem stepsMeet_iff_renewed {misuse : State → Input → Prop}
    (preserved : ∀ {state input response next},
      Inv state → ¬ (Spent state ∧ misuse state input) →
        call state input = .ok (response, next) → Inv next)
    (spends : ∀ {state input response next},
      Inv state → ¬ (Spent state ∧ misuse state input) →
        call state input = .ok (response, next) →
          (Spent next ↔ event state input ∨
            Spent state ∧ ¬ separator state input))
    {inputs : List Input} {state : State} (initial : Inv state) :
    StepsMeet call (fun state input => ¬ (Spent state ∧ misuse state input))
        state inputs ↔
      (Spent state → QuietUntil call separator misuse state inputs) ∧
        Renewed call event separator misuse state inputs := by
  induction inputs generalizing state with
  | nil =>
      exact iff_of_true trivial ⟨fun _ => trivial, trivial⟩
  | cons input rest inductionHypothesis =>
      constructor
      · rintro ⟨proper, restProper⟩
        have later : ∀ response next,
            call state input = .ok (response, next) →
              (Spent next → QuietUntil call separator misuse next rest) ∧
                Renewed call event separator misuse next rest := by
          intro response next called
          exact (inductionHypothesis (preserved initial proper called)).mp
            (restProper response next called)
        refine ⟨fun spent => ⟨fun misused => proper ⟨spent, misused⟩, ?_⟩,
          fun happens response next called => ?_,
          fun response next called => (later response next called).2⟩
        · by_cases separates : separator state input
          · exact Or.inl separates
          · refine Or.inr fun response next called => ?_
            exact (later response next called).1
              ((spends initial proper called).mpr
                (Or.inr ⟨spent, separates⟩))
        · exact (later response next called).1
            ((spends initial proper called).mpr (Or.inl happens))
      · rintro ⟨quiet, follows, restRenewed⟩
        have proper : ¬ (Spent state ∧ misuse state input) :=
          fun both => (quiet both.1).1 both.2
        refine ⟨proper, fun response next called => ?_⟩
        refine (inductionHypothesis (preserved initial proper called)).mpr
          ⟨fun spentNext => ?_, restRenewed response next called⟩
        rcases (spends initial proper called).mp spentNext with
          happens | ⟨spent, separates⟩
        · exact follows happens response next called
        · exact (quiet spent).2.resolve_left separates
            response next called

/-- A condition that follows from an invariant is met by every step of a run
over accepted inputs. -/
theorem stepsMeet_of_invariant {condition : State → Input → Prop}
    (accepted : Input → Prop)
    (preserved : ∀ {state input response next},
      Inv state → call state input = .ok (response, next) → Inv next)
    (implies : ∀ {state input}, Inv state → accepted input →
      condition state input) :
    ∀ {inputs : List Input} {state : State}, Inv state →
      (∀ input ∈ inputs, accepted input) →
        StepsMeet call condition state inputs
  | [], _, _, _ => trivial
  | input :: _, _, initial, every =>
      ⟨implies initial (every input List.mem_cons_self),
        fun _ _ called =>
          stepsMeet_of_invariant accepted preserved implies
            (preserved initial called)
            (fun later mem => every later (List.mem_cons_of_mem _ mem))⟩

end Separated

/-! ## Observers -/

/-- The machine together with an observer of its calls.  The observer sees the
state before the call, the input and the response, and changes nothing. -/
def observed (call : Call State Input Response)
    (observe : State → Input → Response → History → History) :
    Call (State × History) Input Response :=
  fun (state, history) input => do
    let (response, next) ← call state input
    pure (response, (next, observe state input response history))

section Observed

variable {call : Call State Input Response}
variable {observe : State → Input → Response → History → History}

theorem observed_eq_ok_iff
    {state next : State} {history later : History} {input : Input}
    {response : Response} :
    observed call observe (state, history) input =
        .ok (response, (next, later)) ↔
      call state input = .ok (response, next) ∧
        later = observe state input response history := by
  simp only [observed, Outcome.bind_eq_ok_iff, Outcome.pure_eq_ok,
    Except.ok.injEq, Prod.mk.injEq, Prod.exists]
  constructor
  · rintro ⟨_, _, called, rfl, rfl, rfl⟩
    exact ⟨called, rfl⟩
  · rintro ⟨called, rfl⟩
    exact ⟨response, next, called, rfl, rfl, rfl⟩

/-- An observer sees every run of the machine. -/
theorem exists_run_observed
    (observe : State → Input → Response → History → History)
    {state final : State} {inputs : List Input}
    {responses : List Response} (history : History)
    (ran : run call state inputs = .ok (responses, final)) :
    ∃ later,
      run (observed call observe) (state, history) inputs =
        .ok (responses, (final, later)) := by
  induction inputs generalizing state history responses with
  | nil =>
      cases ran
      exact ⟨history, rfl⟩
  | cons input rest inductionHypothesis =>
      obtain ⟨response, next, others, called, ranRest, rfl⟩ :=
        run_cons_eq_ok_iff.mp ran
      obtain ⟨later, observedRest⟩ :=
        inductionHypothesis
          (observe state input response history) ranRest
      exact ⟨later,
        run_cons (observed_eq_ok_iff.mpr ⟨called, rfl⟩) observedRest⟩

/-- An observer sees nothing but runs of the machine. -/
theorem run_of_observed
    {state final : State} {inputs : List Input}
    {responses : List Response} {history later : History}
    (ran : run (observed call observe) (state, history) inputs =
      .ok (responses, (final, later))) :
    run call state inputs = .ok (responses, final) := by
  induction inputs generalizing state history responses with
  | nil =>
      cases ran
      rfl
  | cons input rest inductionHypothesis =>
      obtain ⟨response, ⟨next, seen⟩, others, called, ranRest, rfl⟩ :=
        run_cons_eq_ok_iff.mp ran
      exact run_cons (observed_eq_ok_iff.mp called).1
        (inductionHypothesis ranRest)

/-- What is asked of the machine alone is not changed by an observer. -/
theorem stepsMeet_observed_iff (condition : State → Input → Prop) :
    ∀ {inputs : List Input} {state : State} {history : History},
      StepsMeet (observed call observe)
          (fun pair input => condition pair.1 input)
          (state, history) inputs ↔
        StepsMeet call condition state inputs
  | [], _, _ => Iff.rfl
  | input :: rest, state, history => by
      simp only [StepsMeet]
      refine and_congr Iff.rfl ?_
      constructor
      · intro always response next called
        have restMet :=
          always response
            (next, observe state input response history)
            (observed_eq_ok_iff.mpr ⟨called, rfl⟩)
        exact (stepsMeet_observed_iff condition).mp restMet
      · intro always response pair called
        obtain ⟨next, later⟩ := pair
        have served := (observed_eq_ok_iff.mp called).1
        exact (stepsMeet_observed_iff condition).mpr
          (always response next served)

end Observed

end DeviceLib
