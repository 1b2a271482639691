import Kvmulate.Lib.Run

/-!
# A place for one item

What is put there replaces the item that is waiting, and an item is taken only
once.
-/

namespace DeviceLib

universe u

inductive MailStep (α : Type u) where
  | put (item : α)
  | take

section Mailbox

variable {α : Type u}

namespace MailStep

/-- The item that waits behind a step. -/
def after : MailStep α → Option α → Option α
  | .put item, _ => some item
  | .take, _ => none

def takes : MailStep α → Option α → Option α
  | .put _, _ => none
  | .take, waiting => waiting

end MailStep

/-- The items that the steps put there. -/
def mailPut : List (MailStep α) → List α
  | [] => []
  | .put item :: rest => item :: mailPut rest
  | .take :: rest => mailPut rest

/-- The items that the steps take. -/
def mailTaken : Option α → List (MailStep α) → List α
  | _, [] => []
  | waiting, step :: rest =>
      (step.takes waiting).toList ++ mailTaken (step.after waiting) rest

/-- The item that waits at the end. -/
def mailLeft : Option α → List (MailStep α) → Option α
  | waiting, [] => waiting
  | waiting, step :: rest => mailLeft (step.after waiting) rest

/-- No item is put there while another one is waiting. -/
def NeverReplaces : Option α → List (MailStep α) → Prop
  | _, [] => True
  | waiting, .put item :: rest =>
      waiting = none ∧ NeverReplaces (some item) rest
  | _, .take :: rest => NeverReplaces none rest

/-- Nothing is invented, repeated or put in another order. -/
theorem mailTaken_sublist (waiting : Option α) (steps : List (MailStep α)) :
    (mailTaken waiting steps ++ (mailLeft waiting steps).toList).Sublist
      (waiting.toList ++ mailPut steps) := by
  induction steps generalizing waiting with
  | nil =>
      rw [mailPut, List.append_nil]
      exact List.Sublist.refl _
  | cons step rest inductionHypothesis =>
      cases step with
      | put item =>
          exact (inductionHypothesis (some item)).trans
            (List.sublist_append_right waiting.toList _)
      | take =>
          have later := inductionHypothesis none
          rw [mailTaken, List.append_assoc]
          exact List.Sublist.append_left later waiting.toList

/-- Nothing is lost exactly when nothing is replaced. -/
theorem mailTaken_eq_iff (waiting : Option α) (steps : List (MailStep α)) :
    mailTaken waiting steps ++ (mailLeft waiting steps).toList =
        waiting.toList ++ mailPut steps ↔
      NeverReplaces waiting steps := by
  induction steps generalizing waiting with
  | nil =>
      refine iff_of_true ?_ trivial
      rw [mailPut, List.append_nil]
      rfl
  | cons step rest inductionHypothesis =>
      cases step with
      | put item =>
          cases waiting with
          | none =>
              rw [NeverReplaces, ← inductionHypothesis]
              exact (and_iff_right rfl).symm
          | some other =>
              refine iff_of_false ?_ (fun never => by cases never.1)
              intro same
              have shorter :=
                (mailTaken_sublist (some item) rest).length_le
              have equal := congrArg List.length same
              have longer :
                  ((some other).toList ++ mailPut (.put item :: rest)).length =
                    ((some item).toList ++ mailPut rest).length + 1 := by
                simp [mailPut]
              have kept :
                  (mailTaken (some other) (.put item :: rest) ++
                    (mailLeft (some other) (.put item :: rest)).toList).length =
                  (mailTaken (some item) rest ++
                    (mailLeft (some item) rest).toList).length := rfl
              omega
      | take =>
          rw [NeverReplaces, ← inductionHypothesis, mailTaken,
            List.append_assoc]
          exact List.append_right_inj waiting.toList

theorem mailLeft_append (waiting : Option α)
    (first second : List (MailStep α)) :
    mailLeft waiting (first ++ second) =
      mailLeft (mailLeft waiting first) second := by
  induction first generalizing waiting with
  | nil => rfl
  | cons step rest inductionHypothesis =>
      exact inductionHypothesis (step.after waiting)

theorem mailTaken_append (waiting : Option α)
    (first second : List (MailStep α)) :
    mailTaken waiting (first ++ second) =
      mailTaken waiting first ++
        mailTaken (mailLeft waiting first) second := by
  induction first generalizing waiting with
  | nil => rfl
  | cons step rest inductionHypothesis =>
      rw [List.cons_append, mailTaken, inductionHypothesis, mailTaken,
        List.append_assoc]
      rfl

/-- The items come from the inputs that put something there. -/
theorem mailPut_filterMap {β : Type u} {mail : β → Option (MailStep α)}
    {item : β → Option α}
    (puts : ∀ input, mailPut (mail input).toList = (item input).toList)
    (inputs : List β) :
    mailPut (inputs.filterMap mail) = inputs.filterMap item := by
  induction inputs with
  | nil => rfl
  | cons input rest inductionHypothesis =>
      have first := puts input
      cases step : mail input with
      | none =>
          rw [step] at first
          have silent : item input = none :=
            Option.toList_eq_nil_iff.mp first.symm
          rw [List.filterMap_cons_none step, List.filterMap_cons_none silent,
            inductionHypothesis]
      | some own =>
          rw [step] at first
          rw [List.filterMap_cons_some step]
          cases own with
          | put given =>
              have found : item input = some given := by
                cases found : item input with
                | none =>
                    rw [found] at first
                    cases first
                | some other =>
                    rw [found] at first
                    cases first
                    rfl
              rw [List.filterMap_cons_some found, mailPut,
                inductionHypothesis]
          | take =>
              have silent : item input = none :=
                Option.toList_eq_nil_iff.mp first.symm
              rw [List.filterMap_cons_none silent, mailPut,
                inductionHypothesis]

end Mailbox

end DeviceLib
