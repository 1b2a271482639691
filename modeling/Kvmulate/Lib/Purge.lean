import Kvmulate.Lib.Run

/-!
# Inputs that are not seen

Where a view of the state goes by some of the inputs only, the other inputs
can be left out of a run: the view and the responses to the inputs that count
stay the same.
-/

namespace DeviceLib

universe u

variable {State Input Response View : Type u}

/-- The responses to the inputs that count. -/
def ownResponses (own : Input → Bool) :
    List Input → List Response → List Response
  | [], _ => []
  | _ :: _, [] => []
  | input :: given, response :: others =>
      if own input then response :: ownResponses own given others
      else ownResponses own given others

section OwnResponses

variable {own : Input → Bool} {input : Input} {given : List Input}
variable {response : Response} {others : List Response}

theorem ownResponses_cons_of_true (counts : own input = true) :
    ownResponses own (input :: given) (response :: others) =
      response :: ownResponses own given others :=
  if_pos counts

theorem ownResponses_cons_of_false (other : own input = false) :
    ownResponses own (input :: given) (response :: others) =
      ownResponses own given others :=
  if_neg (Bool.eq_false_iff.mp other)

end OwnResponses

/-- The inputs that count go by what the view shows, and the others return
without a change to it. -/
structure Unwinds (call : Call State Input Response) (own : Input → Bool)
    (view : State → View) : Prop where
  returns : ∀ state input, own input = false →
    ∃ response next, call state input = .ok (response, next) ∧
      view next = view state
  determines : ∀ {state other next input response},
    own input = true → view state = view other →
      call state input = .ok (response, next) →
        ∃ last, call other input = .ok (response, last) ∧
          view last = view next

section Purge

variable {call : Call State Input Response} {own : Input → Bool}
variable {view : State → View} {state other last : State}
variable {given : List Input} {answers : List Response}

/-- A run over the inputs that count returns among all others, with the same
responses and the same view in the end. -/
theorem exists_run_of_purged (unwinds : Unwinds call own view)
    (same : view state = view other)
    (ran : run call state (given.filter own) = .ok (answers, last)) :
    ∃ delivered final,
      run call other given = .ok (delivered, final) ∧
        view final = view last ∧
          ownResponses own given delivered = answers := by
  induction given generalizing state other answers with
  | nil =>
      cases ran
      exact ⟨[], other, rfl, same.symm, rfl⟩
  | cons input rest inductionHypothesis =>
      cases counts : own input with
      | true =>
          rw [List.filter_cons_of_pos counts] at ran
          obtain ⟨response, next, others, called, ranRest, rfl⟩ :=
            run_cons_eq_ok_iff.mp ran
          obtain ⟨middle, again, agree⟩ :=
            unwinds.determines counts same called
          obtain ⟨delivered, final, ranOther, shown, told⟩ :=
            inductionHypothesis agree.symm ranRest
          refine ⟨response :: delivered, final, run_cons again ranOther,
            shown, ?_⟩
          rw [ownResponses_cons_of_true counts, told]
      | false =>
          rw [List.filter_cons_of_neg (Bool.eq_false_iff.mp counts)] at ran
          obtain ⟨response, next, called, kept⟩ :=
            unwinds.returns other input counts
          obtain ⟨delivered, final, ranOther, shown, told⟩ :=
            inductionHypothesis (same.trans kept.symm) ran
          refine ⟨response :: delivered, final, run_cons called ranOther,
            shown, ?_⟩
          rw [ownResponses_cons_of_false counts, told]

end Purge

end DeviceLib
