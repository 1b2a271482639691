import Kvmulate.Lib.Outcome
import Mathlib.Logic.Function.Basic

/-!
# Loops that store values

A loop that stores a value at a place in each pass is a list of strokes.  At
a place where all strokes agree, the value is found afterwards.
-/

namespace DeviceLib

universe u

variable {α ι : Type u}

/-- Store values at their places, one after the other. -/
def paint (canvas : Nat → α) : List (Nat × α) → Nat → α
  | [] => canvas
  | stroke :: rest =>
      paint (Function.update canvas stroke.1 stroke.2) rest

section Paint

variable {place : Nat} {value : α} {strokes : List (Nat × α)}

theorem paint_append (canvas : Nat → α) (first second : List (Nat × α)) :
    paint canvas (first ++ second) = paint (paint canvas first) second := by
  induction first generalizing canvas with
  | nil => rfl
  | cons stroke rest inductionHypothesis =>
      exact inductionHypothesis _

theorem paint_elsewhere {canvas : Nat → α}
    (apart : ∀ other, (place, other) ∉ strokes) :
    paint canvas strokes place = canvas place := by
  induction strokes generalizing canvas with
  | nil => rfl
  | cons stroke rest inductionHypothesis =>
      have different : place ≠ stroke.1 := by
        intro same
        apply apart stroke.2
        rw [same]
        exact List.mem_cons_self
      have later := @inductionHypothesis
        (Function.update canvas stroke.1 stroke.2)
        (fun other mem => apart other (List.mem_cons_of_mem _ mem))
      exact later.trans (Function.update_of_ne different _ _)

/-- Where all strokes agree, their order does not matter. -/
theorem paint_of_mem {canvas : Nat → α}
    (mem : (place, value) ∈ strokes)
    (agree : ∀ other, (place, other) ∈ strokes → other = value) :
    paint canvas strokes place = value := by
  induction strokes generalizing canvas with
  | nil => exact absurd mem List.not_mem_nil
  | cons stroke rest inductionHypothesis =>
      have agreeRest : ∀ other, (place, other) ∈ rest → other = value :=
        fun other later => agree other (List.mem_cons_of_mem _ later)
      by_cases again : ∃ other, (place, other) ∈ rest
      · rcases again with ⟨other, later⟩
        rw [agreeRest other later] at later
        exact inductionHypothesis later agreeRest
      · rcases List.mem_cons.mp mem with same | later
        · have last := @paint_elsewhere _ place rest
            (Function.update canvas stroke.1 stroke.2)
            (fun other later => again ⟨other, later⟩)
          change paint _ rest place = value
          rw [last, ← same, Function.update_self]
        · exact absurd ⟨value, later⟩ again

end Paint

/-- In rows of a fixed length, a place determines its row and its column. -/
theorem row_column_unique {pitch row column otherRow otherColumn : Nat}
    (inside : column < pitch) (otherInside : otherColumn < pitch)
    (same : row * pitch + column = otherRow * pitch + otherColumn) :
    row = otherRow ∧ column = otherColumn := by
  have positive : 0 < pitch := Nat.zero_lt_of_lt inside
  have quotient : ∀ {first second : Nat}, second < pitch →
      (first * pitch + second) / pitch = first := by
    intro first second small
    rw [Nat.add_comm, Nat.add_mul_div_right _ _ positive,
      Nat.div_eq_of_lt small, Nat.zero_add]
  have rows : row = otherRow :=
    (quotient inside).symm.trans
      ((congrArg (· / pitch) same).trans (quotient otherInside))
  rw [rows] at same
  exact ⟨rows, Nat.add_left_cancel same⟩

/-- A loop whose passes paint. -/
theorem foldl_paint {step : (Nat → α) → ι → Nat → α}
    {strokes : ι → List (Nat × α)}
    (each : ∀ canvas item, step canvas item = paint canvas (strokes item))
    (items : List ι) (canvas : Nat → α) :
    items.foldl step canvas = paint canvas (items.flatMap strokes) := by
  induction items generalizing canvas with
  | nil => rfl
  | cons item rest inductionHypothesis =>
      rw [List.foldl_cons, List.flatMap_cons, paint_append, each,
        inductionHypothesis]

/-- The same where each pass may stop, but does not for the items at hand. -/
theorem foldlM_paint {step : (Nat → α) → ι → Outcome (Nat → α)}
    {strokes : ι → List (Nat × α)} {items : List ι}
    (each : ∀ canvas, ∀ item ∈ items,
      step canvas item = .ok (paint canvas (strokes item)))
    (canvas : Nat → α) :
    items.foldlM step canvas =
      .ok (paint canvas (items.flatMap strokes)) := by
  induction items generalizing canvas with
  | nil => rfl
  | cons item rest inductionHypothesis =>
      have first := each canvas item List.mem_cons_self
      rw [List.foldlM_cons, first, Outcome.ok_bind, List.flatMap_cons,
        paint_append]
      exact inductionHypothesis
        (fun canvas item mem => each canvas item (List.mem_cons_of_mem _ mem))
        _

end DeviceLib
