import Kvmulate.Lib.Run

/-!
# Components of a machine

A component works on its own part of the state of a machine and takes some of
the inputs; the other inputs leave the part alone.  A run of the machine shows
the component a run of its own.
-/

namespace DeviceLib

universe u

variable {State Input Response : Type u}
variable {Part PartInput PartResponse : Type u}

/-- How a component is embedded in a machine. -/
structure Component (whole : Call State Input Response)
    (part : Call Part PartInput PartResponse) where
  get : State → Part
  set : Part → State → State
  takes : Input → Option PartInput
  shows : PartResponse → Response
  get_set : ∀ after state, get (set after state) = after
  serves : ∀ {state input own}, takes input = some own →
    whole state input = (do
      let (answer, after) ← part (get state) own
      pure (shows answer, set after state))
  spares : ∀ {state input response next}, takes input = none →
    whole state input = .ok (response, next) → get next = get state

namespace Component

variable {whole : Call State Input Response}
variable {part : Call Part PartInput PartResponse}
variable (component : Component whole part)

/-- The inputs that the component takes. -/
def inputs (given : List Input) : List PartInput :=
  given.filterMap component.takes

/-- The responses to the inputs that the component takes. -/
def responses : List Input → List Response → List Response
  | [], _ => []
  | _ :: _, [] => []
  | input :: given, response :: others =>
      if (component.takes input).isSome then
        response :: responses given others
      else responses given others

variable {component}
variable {state next : State} {input : Input} {own : PartInput}
variable {response : Response}

theorem serves_eq_ok_iff (taken : component.takes input = some own) :
    whole state input = .ok (response, next) ↔
      ∃ answer after,
        part (component.get state) own = .ok (answer, after) ∧
          response = component.shows answer ∧
            next = component.set after state := by
  rw [component.serves taken, Outcome.bind_eq_ok_iff]
  constructor
  · intro served
    rcases served with ⟨⟨answer, after⟩, called, built⟩
    cases built
    exact ⟨answer, after, called, rfl, rfl⟩
  · intro served
    rcases served with ⟨answer, after, called, rfl, rfl⟩
    exact ⟨(answer, after), called, rfl⟩

/-- The component stops the machine as it stops itself. -/
theorem serves_eq_error_iff (taken : component.takes input = some own)
    {stop : Stop} :
    whole state input = .error stop ↔
      part (component.get state) own = .error stop := by
  rw [component.serves taken]
  exact Outcome.bind_ok_eq_error_iff

theorem inputs_cons_of_none {given : List Input}
    (apart : component.takes input = none) :
    component.inputs (input :: given) = component.inputs given :=
  List.filterMap_cons_none apart

theorem inputs_cons_of_some {given : List Input}
    (taken : component.takes input = some own) :
    component.inputs (input :: given) = own :: component.inputs given :=
  List.filterMap_cons_some taken

theorem responses_cons_of_none {given : List Input}
    {others : List Response} (apart : component.takes input = none) :
    component.responses (input :: given) (response :: others) =
      component.responses given others := by
  rw [responses, apart]
  rfl

theorem responses_cons_of_some {given : List Input}
    {others : List Response} (taken : component.takes input = some own) :
    component.responses (input :: given) (response :: others) =
      response :: component.responses given others := by
  rw [responses, taken]
  rfl

/-- In a run of the machine from one state to another, the component does what
it does on its own over the inputs that it takes. -/
def RunsAlone (component : Component whole part) (state : State)
    (given : List Input) (delivered : List Response) (final : State) :
    Prop :=
  ∃ answers,
    run part (component.get state) (component.inputs given) =
        .ok (answers, component.get final) ∧
      answers.map component.shows = component.responses given delivered

theorem runsAlone_of_run {given : List Input} {delivered : List Response}
    {final : State}
    (ran : run whole state given = .ok (delivered, final)) :
    component.RunsAlone state given delivered final := by
  induction given generalizing state delivered with
  | nil =>
      cases ran
      exact ⟨[], rfl, rfl⟩
  | cons input rest inductionHypothesis =>
      obtain ⟨response, next, others, called, ranRest, rfl⟩ :=
        run_cons_eq_ok_iff.mp ran
      obtain ⟨answers, ranPart, shown⟩ := inductionHypothesis ranRest
      unfold RunsAlone
      cases taken : component.takes input with
      | none =>
          rw [component.spares taken called] at ranPart
          rw [inputs_cons_of_none taken, responses_cons_of_none taken]
          exact ⟨answers, ranPart, shown⟩
      | some own =>
          obtain ⟨answer, after, served, rfl, rfl⟩ :=
            (serves_eq_ok_iff taken).mp called
          rw [component.get_set] at ranPart
          rw [inputs_cons_of_some taken, responses_cons_of_some taken]
          exact ⟨answer :: answers, run_cons served ranPart,
            congrArg (component.shows answer :: ·) shown⟩

/-- What the machine meets at the inputs of the component, the component meets
in its own run. -/
theorem stepsMeet_part {condition : Part → PartInput → Prop}
    {given : List Input} {delivered : List Response} {final : State}
    (met : StepsMeet whole
      (fun state input => ∀ own, component.takes input = some own →
        condition (component.get state) own) state given)
    (ran : run whole state given = .ok (delivered, final)) :
    StepsMeet part condition (component.get state)
      (component.inputs given) := by
  induction given generalizing state delivered with
  | nil => exact trivial
  | cons input rest inductionHypothesis =>
      obtain ⟨response, next, others, called, ranRest, rfl⟩ :=
        run_cons_eq_ok_iff.mp ran
      obtain ⟨here, restMet⟩ := (stepsMeet_cons_iff called).mp met
      have later := inductionHypothesis restMet ranRest
      cases taken : component.takes input with
      | none =>
          rw [component.spares taken called] at later
          rw [inputs_cons_of_none taken]
          exact later
      | some own =>
          obtain ⟨answer, after, served, -, rfl⟩ :=
            (serves_eq_ok_iff taken).mp called
          rw [component.get_set] at later
          rw [inputs_cons_of_some taken]
          exact (stepsMeet_cons_iff served).mpr ⟨here own taken, later⟩

/-- Over inputs that the component takes, the machine runs as long as it. -/
theorem exists_run_iff {given : List Input}
    (taken : ∀ input ∈ given, (component.takes input).isSome = true) :
    (∃ delivered final, run whole state given = .ok (delivered, final)) ↔
      ∃ answers after,
        run part (component.get state) (component.inputs given) =
          .ok (answers, after) := by
  constructor
  · rintro ⟨delivered, final, ran⟩
    obtain ⟨answers, ranPart, -⟩ :=
      @runsAlone_of_run _ _ _ _ _ _ _ _ component _ _ _ _ ran
    exact ⟨answers, _, ranPart⟩
  · induction given generalizing state with
    | nil => exact fun _ => ⟨[], state, rfl⟩
    | cons input rest inductionHypothesis =>
        rintro ⟨answers, after, ranPart⟩
        obtain ⟨own, takes⟩ :=
          Option.isSome_iff_exists.mp (taken input List.mem_cons_self)
        rw [inputs_cons_of_some takes] at ranPart
        obtain ⟨answer, next, others, called, ranRest, -⟩ :=
          run_cons_eq_ok_iff.mp ranPart
        have served :
            whole state input =
              .ok (component.shows answer, component.set next state) :=
          (serves_eq_ok_iff takes).mpr ⟨answer, next, called, rfl, rfl⟩
        obtain ⟨delivered, final, ran⟩ :=
          @inductionHypothesis (component.set next state)
            (fun other mem => taken other (List.mem_cons_of_mem _ mem))
            ⟨others, after, by rw [component.get_set]; exact ranRest⟩
        exact ⟨_, final, run_cons served ran⟩

/-- What the component preserves, the machine preserves. -/
theorem preserves {Inv : Part → Prop}
    (preserved : ∀ {state own answer after},
      Inv state → part state own = .ok (answer, after) → Inv after)
    (holds : Inv (component.get state))
    (called : whole state input = .ok (response, next)) :
    Inv (component.get next) := by
  cases taken : component.takes input with
  | none =>
      rw [component.spares taken called]
      exact holds
  | some own =>
      obtain ⟨answer, after, served, -, rfl⟩ :=
        (serves_eq_ok_iff taken).mp called
      rw [component.get_set]
      exact preserved holds served

/-- Two runs that give the component the same inputs show the same responses
of it and leave it in the same state. -/
theorem noninterference {first second : List Input}
    {firstState secondState firstFinal secondFinal : State}
    {firstDelivered secondDelivered : List Response}
    (start : component.get firstState = component.get secondState)
    (same : component.inputs first = component.inputs second)
    (firstRan : run whole firstState first =
      .ok (firstDelivered, firstFinal))
    (secondRan : run whole secondState second =
      .ok (secondDelivered, secondFinal)) :
    component.responses first firstDelivered =
        component.responses second secondDelivered ∧
      component.get firstFinal = component.get secondFinal := by
  obtain ⟨firstAnswers, ranFirst, firstShown⟩ :=
    @runsAlone_of_run _ _ _ _ _ _ _ _ component _ _ _ _ firstRan
  obtain ⟨secondAnswers, ranSecond, secondShown⟩ :=
    @runsAlone_of_run _ _ _ _ _ _ _ _ component _ _ _ _ secondRan
  rw [start, same, ranSecond] at ranFirst
  obtain ⟨answers, finals⟩ := Prod.mk.inj (Except.ok.inj ranFirst)
  rw [← firstShown, ← secondShown, answers]
  exact ⟨rfl, finals.symm⟩

/-! ## Components of components -/

section Trans

variable {Inner InnerInput InnerResponse : Type u}
variable {inner : Call Inner InnerInput InnerResponse}

section Fields

variable {outer : Component whole part} {nested : Component part inner}
variable {state next : State} {input : Input} {own : InnerInput}
variable {response : Response}

theorem get_set_trans (after : Inner) (state : State) :
    nested.get (outer.get
        (outer.set (nested.set after (outer.get state)) state)) =
      after := by
  rw [outer.get_set, nested.get_set]

theorem serves_trans
    (taken : (outer.takes input).bind nested.takes = some own) :
    whole state input = (do
      let (answer, after) ← inner (nested.get (outer.get state)) own
      pure (outer.shows (nested.shows answer),
        outer.set (nested.set after (outer.get state)) state)) := by
  obtain ⟨middle, first, second⟩ := Option.bind_eq_some_iff.mp taken
  rw [outer.serves first, nested.serves second]
  simp only [bind_assoc, pure_bind]

theorem spares_trans
    (apart : (outer.takes input).bind nested.takes = none)
    (called : whole state input = .ok (response, next)) :
    nested.get (outer.get next) = nested.get (outer.get state) := by
  cases first : outer.takes input with
  | none => rw [outer.spares first called]
  | some middle =>
      rw [first, Option.bind_some] at apart
      obtain ⟨answer, after, served, -, rfl⟩ :=
        (serves_eq_ok_iff first).mp called
      rw [outer.get_set]
      exact nested.spares apart served

end Fields

/-- A component of a component. -/
def trans (outer : Component whole part) (nested : Component part inner) :
    Component whole inner where
  get state := nested.get (outer.get state)
  set after state :=
    outer.set (nested.set after (outer.get state)) state
  takes input := (outer.takes input).bind nested.takes
  shows answer := outer.shows (nested.shows answer)
  get_set := get_set_trans
  serves := serves_trans
  spares := spares_trans

theorem inputs_trans (outer : Component whole part)
    (nested : Component part inner) (given : List Input) :
    (outer.trans nested).inputs given =
      nested.inputs (outer.inputs given) :=
  List.filterMap_filterMap.symm

end Trans

end Component

end DeviceLib
