import Kvmulate.Lib.Component

/-!
# Machines made up of components

Where every input is for exactly one of the components and the components
show the whole state, a run of the machine is nothing but a run of each of
them.  The order between the inputs of different components does not matter.
-/

namespace DeviceLib

universe u v

variable {State Input Response : Type u}

/-- Components that make up a machine. -/
structure Decomposition (whole : Call State Input Response)
    (Name : Type v) where
  Part : Name → Type u
  PartInput : Name → Type u
  PartResponse : Name → Type u
  part : ∀ name, Call (Part name) (PartInput name) (PartResponse name)
  component : ∀ name, Component whole (part name)
  owner : Input → Name
  owned : ∀ name input,
    ((component name).takes input).isSome = true ↔ owner input = name
  covers : ∀ {first second},
    (∀ name, (component name).get first = (component name).get second) →
      first = second

namespace Decomposition

variable {whole : Call State Input Response} {Name : Type v}
variable (decomposition : Decomposition whole Name)

/-- Two lists of inputs agree on what each component is given. -/
def SameInputs (first second : List Input) : Prop :=
  ∀ name, (decomposition.component name).inputs first =
    (decomposition.component name).inputs second

/-- Each component shows the same responses. -/
def SameResponses (first second : List Input)
    (firstDelivered secondDelivered : List Response) : Prop :=
  ∀ name, (decomposition.component name).responses first firstDelivered =
    (decomposition.component name).responses second secondDelivered

variable {decomposition}
variable {state next final : State} {input : Input} {name : Name}
variable {given : List Input} {delivered : List Response}

/-- The input is for its owner. -/
theorem exists_taken (input : Input) :
    ∃ own, (decomposition.component (decomposition.owner input)).takes
      input = some own :=
  Option.isSome_iff_exists.mp
    ((decomposition.owned _ input).mpr rfl)

theorem takes_of_ne (other : decomposition.owner input ≠ name) :
    (decomposition.component name).takes input = none := by
  cases taken : (decomposition.component name).takes input with
  | none => rfl
  | some own =>
      have some := Option.isSome_iff_exists.mpr ⟨own, taken⟩
      exact absurd ((decomposition.owned name input).mp some) other

/-- One input changes its owner and shows the owner's response. -/
theorem get_of_call {response : Response}
    (called : whole state input = .ok (response, next))
    (other : decomposition.owner input ≠ name) :
    (decomposition.component name).get next =
      (decomposition.component name).get state :=
  (decomposition.component name).spares (takes_of_ne other) called

/-- The components together run as long as the machine. -/
theorem exists_run_iff_forall :
    (∃ delivered final, run whole state given = .ok (delivered, final)) ↔
      ∀ name, ∃ answers after,
        run (decomposition.part name)
            ((decomposition.component name).get state)
            ((decomposition.component name).inputs given) =
          .ok (answers, after) := by
  constructor
  · intro ran name
    rcases ran with ⟨delivered, final, ran⟩
    obtain ⟨answers, ranPart, -⟩ :=
      @Component.runsAlone_of_run _ _ _ _ _ _ _ _
        (decomposition.component name) _ _ _ _ ran
    exact ⟨answers, _, ranPart⟩
  · induction given generalizing state with
    | nil => exact fun _ => ⟨[], state, rfl⟩
    | cons input rest inductionHypothesis =>
        intro each
        obtain ⟨own, taken⟩ :=
          @exists_taken _ _ _ _ _ decomposition input
        obtain ⟨answers, after, ranOwner⟩ :=
          each (decomposition.owner input)
        rw [Component.inputs_cons_of_some taken] at ranOwner
        obtain ⟨answer, stepped, others, served, ranRest, -⟩ :=
          run_cons_eq_ok_iff.mp ranOwner
        have called :=
          (Component.serves_eq_ok_iff taken).mpr
            ⟨answer, stepped, served, rfl, rfl⟩
        have later : ∀ name, ∃ answers after,
            run (decomposition.part name)
                ((decomposition.component name).get
                  ((decomposition.component
                    (decomposition.owner input)).set stepped state))
                ((decomposition.component name).inputs rest) =
              .ok (answers, after) := by
          intro name
          by_cases same : decomposition.owner input = name
          · subst same
            rw [Component.get_set]
            exact ⟨others, after, ranRest⟩
          · obtain ⟨answers, after, ranOther⟩ := each name
            rw [Component.inputs_cons_of_none (takes_of_ne same)]
              at ranOther
            rw [get_of_call called same]
            exact ⟨answers, after, ranOther⟩
        obtain ⟨delivered, final, ran⟩ := inductionHypothesis later
        exact ⟨_, final, run_cons called ran⟩

/-- A run of the machine is a run of each component. -/
theorem run_eq_ok_iff_forall :
    run whole state given = .ok (delivered, final) ↔
      delivered.length = given.length ∧
        ∀ name, (decomposition.component name).RunsAlone state given
          delivered final := by
  constructor
  · intro ran
    exact ⟨length_of_run ran, fun name => Component.runsAlone_of_run ran⟩
  · induction given generalizing state delivered with
    | nil =>
        intro alone
        rcases alone with ⟨length, each⟩
        have ended : state = final := by
          refine decomposition.covers fun name => ?_
          obtain ⟨answers, ranPart, -⟩ := each name
          exact (Prod.mk.inj (Except.ok.inj ranPart)).2
        rw [List.length_eq_zero_iff.mp length, ended]
        rfl
    | cons input rest inductionHypothesis =>
        intro alone
        rcases alone with ⟨length, each⟩
        cases delivered with
        | nil => cases length
        | cons response others =>
            obtain ⟨own, taken⟩ :=
              @exists_taken _ _ _ _ _ decomposition input
            obtain ⟨answers, ranOwner, shown⟩ :=
              each (decomposition.owner input)
            rw [Component.inputs_cons_of_some taken] at ranOwner
            rw [Component.responses_cons_of_some taken] at shown
            obtain ⟨answer, stepped, later, served, ranRest, rfl⟩ :=
              run_cons_eq_ok_iff.mp ranOwner
            obtain ⟨rfl, shownRest⟩ := List.cons.inj shown
            have called :=
              (Component.serves_eq_ok_iff taken).mpr
                ⟨answer, stepped, served, rfl, rfl⟩
            refine run_cons called
              (inductionHypothesis ⟨Nat.succ.inj length, ?_⟩)
            intro name
            by_cases same : decomposition.owner input = name
            · subst same
              refine ⟨later, ?_, shownRest⟩
              rw [Component.get_set]
              exact ranRest
            · obtain ⟨answers, ranOther, shownOther⟩ := each name
              rw [Component.inputs_cons_of_none (takes_of_ne same)]
                at ranOther
              rw [Component.responses_cons_of_none (takes_of_ne same)]
                at shownOther
              refine ⟨answers, ?_, shownOther⟩
              rw [get_of_call called same]
              exact ranOther

/-- Schedules that agree on what each component is given lead to the same
state, and each component gives the same responses. -/
theorem run_of_sameInputs {first second : List Input}
    (same : decomposition.SameInputs first second)
    (ran : run whole state first = .ok (delivered, final)) :
    ∃ others, run whole state second = .ok (others, final) ∧
      decomposition.SameResponses first second delivered others := by
  have each := (@exists_run_iff_forall _ _ _ _ _ decomposition _ _).mp
    ⟨delivered, final, ran⟩
  have again : ∃ others other,
      run whole state second = .ok (others, other) := by
    rw [@exists_run_iff_forall _ _ _ _ _ decomposition]
    intro name
    rw [← same name]
    exact each name
  obtain ⟨others, other, ranSecond⟩ := again
  have agree (name : Name) :=
    @Component.noninterference _ _ _ _ _ _ _ _
      (decomposition.component name) _ _ _ _ _ _ _ _ rfl (same name) ran
      ranSecond
  have ended : final = other :=
    decomposition.covers fun name => (agree name).2
  rw [ended]
  exact ⟨others, ranSecond, fun name => (agree name).1⟩

/-- Neighbouring inputs of different components can be swapped. -/
theorem sameInputs_swap {first second : Input} (before after : List Input)
    (apart : decomposition.owner first ≠ decomposition.owner second) :
    decomposition.SameInputs (before ++ first :: second :: after)
      (before ++ second :: first :: after) := by
  intro name
  unfold Component.inputs
  rw [List.filterMap_append, List.filterMap_append]
  refine congrArg (_ ++ ·) ?_
  by_cases mine : decomposition.owner first = name
  · have other : decomposition.owner second ≠ name := fun same =>
      apart (mine.trans same.symm)
    simp only [List.filterMap_cons, takes_of_ne other]
  · simp only [List.filterMap_cons, takes_of_ne mine]

end Decomposition

end DeviceLib
