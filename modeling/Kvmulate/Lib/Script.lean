import Kvmulate.Lib.Outcome

/-!
# Scripts of calls

A procedure makes calls to its environment, each of them from the answers to
those before it, and ends at the first one that is refused.
-/

namespace DeviceLib

universe u

variable {Call Answer α β γ : Type u}

/-- What the environment answers to a call, after the calls before it. -/
abbrev Environment (Call Answer : Type u) := List Call → Call → Answer

/-- Make a call, and go on with the answer unless it is a refusal.  The result
is `none` where a procedure gives up, and comes with the calls that were
made. -/
def attempt (answer : Environment Call Answer) (call : Call)
    (refused : Answer → Prop) [DecidablePred refused] (calls : List Call)
    (next : Answer → List Call → Outcome (Option α × List Call)) :
    Outcome (Option α × List Call) :=
  if refused (answer calls call) then pure (none, calls ++ [call])
  else next (answer calls call) (calls ++ [call])

/-- Go on with the result of a procedure that did not give up. -/
def andThen (first : Outcome (Option α × List Call))
    (next : α → List Call → Outcome (Option β × List Call)) :
    Outcome (Option β × List Call) := do
  match ← first with
  | (none, calls) => pure (none, calls)
  | (some value, calls) => next value calls

/-! ## Scripts -/

/-- A call, from the answers so far.  Where its refusal is fatal, it stops the
process. -/
structure Request (Call Answer : Type u) where
  call : List Answer → Call
  refused : Answer → Bool
  fatal : Bool

/-- The answers to a script, or `none` where it is given up, and the calls. -/
def perform (answer : Environment Call Answer) :
    List (Request Call Answer) → List Call → List Answer →
      Outcome (Option (List Answer) × List Call)
  | [], calls, answers => pure (some answers, calls)
  | request :: rest, calls, answers =>
      let call := request.call answers
      if request.refused (answer calls call) = true then
        if request.fatal = true then .error .abort
        else pure (none, calls ++ [call])
      else
        perform answer rest (calls ++ [call])
          (answers ++ [answer calls call])

section Rules

variable {answer : Environment Call Answer}
variable {first second script : List (Request Call Answer)}
variable {request : Request Call Answer}
variable {calls made : List Call} {answers all : List Answer}

theorem andThen_none
    (next : α → List Call → Outcome (Option β × List Call)) :
    andThen (.ok (none, calls)) next = .ok (none, calls) := rfl

theorem andThen_assoc (front : Outcome (Option α × List Call))
    (next : α → List Call → Outcome (Option β × List Call))
    (last : β → List Call → Outcome (Option γ × List Call)) :
    andThen (andThen front next) last =
      andThen front fun value calls => andThen (next value calls) last := by
  cases front with
  | error stop => rfl
  | ok result =>
      rcases result with ⟨given, calls⟩
      cases given with
      | none => rfl
      | some value => rfl

theorem andThen_congr {front : Outcome (Option α × List Call)}
    {next other : α → List Call → Outcome (Option β × List Call)}
    (same : ∀ value made, front = .ok (some value, made) →
      next value made = other value made) :
    andThen front next = andThen front other := by
  cases front with
  | error stop => rfl
  | ok result =>
      rcases result with ⟨given, calls⟩
      cases given with
      | none => rfl
      | some value => exact same value calls rfl

theorem andThen_eq_some_iff {front : Outcome (Option α × List Call)}
    {next : α → List Call → Outcome (Option β × List Call)} {value : β} :
    andThen front next = .ok (some value, made) ↔
      ∃ given calls, front = .ok (some given, calls) ∧
        next given calls = .ok (some value, made) := by
  cases front with
  | error stop => simp [andThen]
  | ok result =>
      rcases result with ⟨given, calls⟩
      cases given with
      | none => simp [andThen]
      | some given => simp [andThen]

/-- One call of a procedure is one request of a script. -/
theorem attempt_eq_perform {call : Call} {refused : Answer → Prop}
    [DecidablePred refused]
    {next : Answer → List Call → Outcome (Option α × List Call)}
    {finish : List Answer → List Call → Outcome (Option α × List Call)}
    (same : call = request.call answers)
    (refusal : ∀ given, request.refused given = decide (refused given))
    (mild : request.fatal = false)
    (rest : next (answer calls call) (calls ++ [call]) =
      andThen (perform answer script (calls ++ [call])
        (answers ++ [answer calls call])) finish) :
    attempt answer call refused calls next =
      andThen (perform answer (request :: script) calls answers) finish := by
  unfold attempt
  rw [perform, ← same, refusal]
  by_cases given : refused (answer calls call)
  · simp [given, mild, andThen_none]
  · simp [given, rest]

/-- A check of the answer whose failure stops the process. -/
theorem assert_eq_perform {call : Call} {holds : Prop} [Decidable holds]
    {next : Outcome (Option α × List Call)}
    {finish : List Answer → List Call → Outcome (Option α × List Call)}
    (same : call = request.call answers)
    (refusal : request.refused (answer calls call) = decide (¬ holds))
    (fatal : request.fatal = true)
    (rest : next = andThen (perform answer script (calls ++ [call])
      (answers ++ [answer calls call])) finish) :
    (Outcome.assert holds >>= fun _ => next) =
      andThen (perform answer (request :: script) calls answers) finish := by
  rw [perform, ← same, refusal]
  by_cases taken : holds
  · rw [Outcome.assert_of taken]
    simp [taken, rest]
  · rw [Outcome.assert_of_not taken]
    simp [taken, fatal, andThen]

theorem perform_append :
    perform answer (first ++ second) calls answers =
      andThen (perform answer first calls answers) fun answers calls =>
        perform answer second calls answers := by
  induction first generalizing calls answers with
  | nil => rfl
  | cons request rest inductionHypothesis =>
      rw [List.cons_append, perform, perform]
      by_cases refused :
          request.refused (answer calls (request.call answers)) = true
      · by_cases fatal : request.fatal = true
        · simp [refused, fatal, andThen]
        · simp [refused, fatal, andThen_none]
      · simp [refused, inductionHypothesis]

/-- A script that is completed adds an answer for each request. -/
theorem perform_eq_some
    (done : perform answer script calls answers = .ok (some all, made)) :
    calls <+: made ∧ answers <+: all ∧
      all.length = answers.length + script.length := by
  induction script generalizing calls answers with
  | nil =>
      cases done
      exact ⟨List.prefix_rfl, List.prefix_rfl, rfl⟩
  | cons request rest inductionHypothesis =>
      rw [perform] at done
      by_cases refused :
          request.refused (answer calls (request.call answers)) = true
      · by_cases fatal : request.fatal = true
        · simp [refused, fatal] at done
        · simp [refused, fatal] at done
      · simp only [refused] at done
        rcases inductionHypothesis done with ⟨callsFirst, answersFirst, sized⟩
        refine ⟨(List.prefix_append _ _).trans callsFirst,
          (List.prefix_append _ _).trans answersFirst, ?_⟩
        rw [sized, List.length_append, List.length_singleton, List.length_cons]
        omega

/-- Each request of a completed script was accepted when it was made. -/
theorem accepted_of_perform
    (done : perform answer (first ++ request :: second) calls answers =
      .ok (some all, made)) :
    ∃ before earlier,
      perform answer first calls answers = .ok (some before, earlier) ∧
        request.refused (answer earlier (request.call before)) = false ∧
          earlier ++ [request.call before] <+: made ∧ before <+: all := by
  rw [perform_append, andThen_eq_some_iff] at done
  rcases done with ⟨before, earlier, front, rest⟩
  refine ⟨before, earlier, front, ?_⟩
  rw [perform] at rest
  by_cases refused :
      request.refused (answer earlier (request.call before)) = true
  · by_cases fatal : request.fatal = true
    · simp [refused, fatal] at rest
    · simp [refused, fatal] at rest
  · simp only [refused] at rest
    rcases perform_eq_some rest with ⟨callsFirst, answersFirst, -⟩
    exact ⟨eq_false_of_ne_true refused, callsFirst,
      (List.prefix_append _ _).trans answersFirst⟩

end Rules

end DeviceLib
