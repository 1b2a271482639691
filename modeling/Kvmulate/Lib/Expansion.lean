import Kvmulate.Lib.Run

/-!
# Calls that stand for several calls

A machine may answer an event by several calls of another machine over the same
state.  Its runs are then runs of that machine, in blocks.
-/

namespace DeviceLib

universe u

variable {State Input Response Event Reply : Type u}

theorem run_one_eq_ok_iff {call : Call State Input Response}
    {state final : State} {input : Input} {responses : List Response} :
    run call state [input] = .ok (responses, final) ↔
      ∃ response, call state input = .ok (response, final) ∧
        responses = [response] := by
  constructor
  · intro ran
    obtain ⟨response, next, others, called, done, rfl⟩ :=
      run_cons_eq_ok_iff.mp ran
    cases done
    exact ⟨response, called, rfl⟩
  · rintro ⟨response, called, rfl⟩
    exact run_one called

/-! ## Blocks of calls -/

/-- The blocks of responses, one for each event, show as the replies. -/
inductive BlocksShow (shows : Event → List Response → Reply → Prop) :
    List Event → List (List Response) → List Reply → Prop
  | nil : BlocksShow shows [] [] []
  | cons {event : Event} {block : List Response} {reply : Reply}
      {events : List Event} {blocks : List (List Response)}
      {replies : List Reply} :
      shows event block reply → BlocksShow shows events blocks replies →
        BlocksShow shows (event :: events) (block :: blocks)
          (reply :: replies)

section Expansion

variable {coarse : Call State Event Reply}
variable {fine : Call State Input Response}
variable {expand : Event → List Input}
variable {shows : Event → List Response → Reply → Prop}
variable {accepted : Event → Prop}

/-- Where each event is answered by a block of calls, a run over the events is
a run over their blocks. -/
theorem run_expand_iff
    (answered : ∀ {event : Event}, accepted event →
      ∀ {state next : State} {reply : Reply},
        coarse state event = .ok (reply, next) ↔
          ∃ block, run fine state (expand event) = .ok (block, next) ∧
            shows event block reply)
    (sized : ∀ {event block reply}, shows event block reply →
      block.length = (expand event).length)
    {events : List Event} (accepts : ∀ event ∈ events, accepted event)
    {state final : State} {replies : List Reply} :
    run coarse state events = .ok (replies, final) ↔
      ∃ blocks,
        run fine state (events.flatMap expand) =
            .ok (blocks.flatten, final) ∧
          BlocksShow shows events blocks replies := by
  induction events generalizing state replies with
  | nil =>
      constructor
      · intro ran
        cases ran
        exact ⟨[], rfl, .nil⟩
      · rintro ⟨blocks, ran, shown⟩
        cases shown
        cases ran
        rfl
  | cons event rest inductionHypothesis =>
      have first := @answered event (accepts event List.mem_cons_self)
      have later := @inductionHypothesis fun other mem =>
        accepts other (List.mem_cons_of_mem _ mem)
      rw [List.flatMap_cons, run_cons_eq_ok_iff]
      constructor
      · rintro ⟨reply, next, others, called, ranRest, rfl⟩
        obtain ⟨block, ranBlock, shown⟩ := first.mp called
        obtain ⟨blocks, ranBlocks, others⟩ := later.mp ranRest
        exact ⟨block :: blocks, run_append ranBlock ranBlocks,
          .cons shown others⟩
      · rintro ⟨blocks, ran, shown⟩
        cases shown with
        | @cons _ block reply _ blocks replies one others =>
            obtain ⟨middle, before, after, ranBlock, ranRest, joined⟩ :=
              run_append_eq_ok_iff.mp ran
            have split := List.append_inj joined
              ((sized one).trans (length_of_run ranBlock).symm)
            rw [← split.1] at ranBlock
            rw [← split.2] at ranRest
            exact ⟨reply, middle, replies, first.mpr ⟨block, ranBlock, one⟩,
              later.mpr ⟨blocks, ranRest, others⟩, rfl⟩

end Expansion

end DeviceLib
