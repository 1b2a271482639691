import Kvmulate.Lib.Run

/-!
# Two programs that share a machine

The inputs of two programs reach the machine in some order that keeps the
order of each.  A relation between what the programs have left to do, the
responses so far and the state holds after every such run if an input of
either program preserves it.
-/

namespace DeviceLib

universe u

section Interleaves

variable {α : Type u}

/-- The list consists of `left` and `right`, each in its own order. -/
inductive Interleaves : List α → List α → List α → Prop
  | nil : Interleaves [] [] []
  | left {item : α} {left right whole : List α} :
      Interleaves left right whole →
      Interleaves (item :: left) right (item :: whole)
  | right {item : α} {left right whole : List α} :
      Interleaves left right whole →
      Interleaves left (item :: right) (item :: whole)

namespace Interleaves

/-- A program that has the machine for itself. -/
theorem alone (items : List α) : Interleaves items [] items := by
  induction items with
  | nil =>
      exact Interleaves.nil
  | cons item rest inductionHypothesis =>
      exact Interleaves.left inductionHypothesis

theorem symm {left right whole : List α}
    (merged : Interleaves left right whole) :
    Interleaves right left whole := by
  induction merged with
  | nil =>
      exact Interleaves.nil
  | left _ inductionHypothesis =>
      exact Interleaves.right inductionHypothesis
  | right _ inductionHypothesis =>
      exact Interleaves.left inductionHypothesis

/-- What is looked for in the items of one program only. -/
theorem filterMap_left {β : Type u} {look : α → Option β}
    {left right whole : List α} (merged : Interleaves left right whole)
    (nothing : ∀ item ∈ right, look item = none) :
    whole.filterMap look = left.filterMap look := by
  induction merged with
  | nil => rfl
  | @left item _ _ _ _ inductionHypothesis =>
      have later := inductionHypothesis nothing
      cases found : look item with
      | none =>
          rw [List.filterMap_cons_none found, List.filterMap_cons_none found,
            later]
      | some result =>
          rw [List.filterMap_cons_some found, List.filterMap_cons_some found,
            later]
  | @right item _ _ _ _ inductionHypothesis =>
      rw [List.filterMap_cons_none (nothing item List.mem_cons_self)]
      exact inductionHypothesis fun other mem =>
        nothing other (List.mem_cons_of_mem item mem)

theorem mem {left right whole : List α}
    (merged : Interleaves left right whole) {item : α}
    (among : item ∈ whole) : item ∈ left ∨ item ∈ right := by
  induction merged with
  | nil => cases among
  | left _ inductionHypothesis =>
      rcases List.mem_cons.mp among with rfl | later
      · exact Or.inl List.mem_cons_self
      · exact (inductionHypothesis later).imp_left
          (List.mem_cons_of_mem _)
  | right _ inductionHypothesis =>
      rcases List.mem_cons.mp among with rfl | later
      · exact Or.inr List.mem_cons_self
      · exact (inductionHypothesis later).imp_right
          (List.mem_cons_of_mem _)

/-- One program after the other. -/
theorem append (left right : List α) :
    Interleaves left right (left ++ right) := by
  induction left with
  | nil =>
      exact symm (alone right)
  | cons item rest inductionHypothesis =>
      exact Interleaves.left inductionHypothesis

end Interleaves

end Interleaves

section Run

variable {State : Type u} {Input Response : Type u}
variable {call : Call State Input Response}

/-- What an input of either program preserves, every run of both programs
preserves, and the run returns. -/
theorem exists_run_of_interleaves
    {Inv : List Input → List Input → List Response → State → Prop}
    (leftStep : ∀ {input left right before state},
      Inv (input :: left) right before state →
        ∃ response next, call state input = .ok (response, next) ∧
          Inv left right (before ++ [response]) next)
    (rightStep : ∀ {input left right before state},
      Inv left (input :: right) before state →
        ∃ response next, call state input = .ok (response, next) ∧
          Inv left right (before ++ [response]) next)
    {left right whole : List Input}
    (merged : Interleaves left right whole)
    {before : List Response} {state : State}
    (initial : Inv left right before state) :
    ∃ responses final,
      run call state whole = .ok (responses, final) ∧
        Inv [] [] (before ++ responses) final := by
  induction merged generalizing before state with
  | nil =>
      refine ⟨[], state, rfl, ?_⟩
      rw [List.append_nil]
      exact initial
  | left _ inductionHypothesis =>
      obtain ⟨response, next, called, kept⟩ := leftStep initial
      obtain ⟨responses, final, ran, holds⟩ := inductionHypothesis kept
      refine ⟨response :: responses, final, ?_, ?_⟩
      · exact run_cons called ran
      · rw [List.append_cons]
        exact holds
  | right _ inductionHypothesis =>
      obtain ⟨response, next, called, kept⟩ := rightStep initial
      obtain ⟨responses, final, ran, holds⟩ := inductionHypothesis kept
      refine ⟨response :: responses, final, ?_, ?_⟩
      · exact run_cons called ran
      · rw [List.append_cons]
        exact holds

end Run

end DeviceLib
