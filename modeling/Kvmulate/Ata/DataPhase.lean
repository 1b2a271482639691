import Kvmulate.Ata.Commit
import Kvmulate.Ata.DataRequest

/-!
# The data phase of a transfer

The words of a command, read or written one after the other while the present
device stays selected.
-/

namespace Kvmulate.Ata

open DeviceLib

/-- DRQ is set before every data word. -/
def RequestedBefore (cont : AtaController)
    (input : HostCalls × Access) : Prop :=
  match input.2 with
  | .inw _ => cont.master.drq
  | .outw _ _ => cont.master.drq
  | _ => True

/-- The same, for the controller with its history. -/
def Requested (state : AtaController × History)
    (input : HostCalls × Access) : Prop :=
  RequestedBefore state.1 input

/-- The words among the responses. -/
def dataWords (responses : List Response) : List Uint16 :=
  responses.filterMap fun response =>
    match response with
    | .word val => some val
    | _ => none

@[simp]
theorem dataWords_word (val : Uint16) (rest : List Response) :
    dataWords (.word val :: rest) = val :: dataWords rest := rfl

@[simp]
theorem dataWords_none (rest : List Response) :
    dataWords (.none :: rest) = dataWords rest := rfl

theorem dataWords_append (first second : List Response) :
    dataWords (first ++ second) = dataWords first ++ dataWords second :=
  List.filterMap_append

/-- The latest command of the present device transfers in a direction. -/
structure Phase (cont : AtaController) (history : History)
    (direction : Direction) : Prop where
  tracks : Tracks cont history
  selected : cont.pCurrDev = .master
  latest : history.latest = some direction
  agrees : cont.master.drq ↔ history.Pending

section Words

variable {host : HostCalls} {cont next : AtaController}
variable {history : History} {guest : Access} {response : Response}

theorem Phase.read_requested (phase : Phase cont history .read) :
    cont.master.drq ↔ history.wordsRead < history.readWords := by
  rw [phase.agrees, History.Pending, phase.latest]

theorem Phase.write_requested (phase : Phase cont history .write) :
    cont.master.drq ↔ history.written.length < history.writeWords := by
  rw [phase.agrees, History.Pending, phase.latest]

/-- A word of its direction continues the phase. -/
theorem Phase.continued {direction : Direction}
    (phase : Phase cont history direction)
    (answered : access cont (host, guest) = .ok (response, next))
    (selected : next.pCurrDev = .master)
    (latest : (history.after cont.currDev.reg (eventOf cont guest)).latest =
      some direction)
    (undisturbed : ¬ history.Disturbed (eventOf cont guest)) :
    Phase next (history.after cont.currDev.reg (eventOf cont guest))
      direction where
  tracks := phase.tracks.step answered
  selected := selected
  latest := latest
  agrees :=
    (drqAgrees_access phase.tracks phase.agrees answered).mpr undisturbed

end Words

/-! ## Reading -/

/-- The controller after one word was read. -/
def afterInw (cont : AtaController) : AtaController :=
  { cont with
    master :=
      { cont.master with
        readBufferOffset := cont.master.readBufferOffset + 2
        reg := readWordRegs cont.master } }

theorem access_inw {cont : AtaController} {history : History}
    (host : HostCalls) (tracks : Tracks cont history)
    (selected : cont.pCurrDev = .master)
    (announced : history.wordsRead < history.readWords) :
    access cont (host, .inw 0) =
      .ok
        (.word (loadWord (cont.master.readBuffer.getD [])
            (2 * history.wordsRead)),
          afterInw cont) := by
  have offset := tracks.read.offset
  have position :
      cont.master.readBufferOffset.toNat = 2 * history.wordsRead := by
    omega
  have called :
      pioInw cont 0 =
        .ok
          (loadWord (cont.master.readBuffer.getD [])
              (2 * history.wordsRead),
            afterInw cont) := by
    rw [pioInw_eq_ok_iff selected]
    exact ⟨rfl, tracks.read.inside_iff.mpr announced,
      by rw [position], rfl⟩
  simp only [access, called, Outcome.ok_bind, Outcome.pure_eq_ok]

/-- One announced word. -/
theorem Phase.inw {cont : AtaController} {history : History}
    (host : HostCalls) (phase : Phase cont history .read)
    (announced : history.wordsRead < history.readWords) :
    accessObserved (cont, history) (host, .inw 0) =
        .ok
          (.word (loadWord (cont.master.readBuffer.getD [])
              (2 * history.wordsRead)),
            (afterInw cont, history.after cont.currDev.reg .dataIn)) ∧
      Phase (afterInw cont) (history.after cont.currDev.reg .dataIn)
        .read := by
  have answered := access_inw host phase.tracks phase.selected announced
  refine ⟨observed_eq_ok_iff.mpr ⟨answered, rfl⟩, ?_⟩
  apply phase.continued answered phase.selected phase.latest
  simp [eventOf, History.Disturbed, phase.latest]

/-- Reading `count` announced words in a row. -/
theorem run_dataIn (host : HostCalls) (count : Nat) :
    ∀ {cont : AtaController} {history : History},
      Phase cont history .read →
      history.wordsRead + count ≤ history.readWords →
      ∃ responses final,
        run accessObserved (cont, history)
            (List.replicate count (host, .inw 0)) =
          .ok (responses,
            (final,
              { history with
                wordsRead := history.wordsRead + count })) ∧
        dataWords responses =
          (List.range count).map (fun index =>
            loadWord (cont.master.readBuffer.getD [])
              (2 * (history.wordsRead + index))) ∧
        StepsMeet accessObserved Requested (cont, history)
          (List.replicate count (host, .inw 0)) ∧
        final.pCurrDev = .master ∧
        final.master.backingfile = cont.master.backingfile ∧
        (final.master.drq ↔
          history.wordsRead + count < history.readWords) := by
  induction count with
  | zero =>
      intro cont history phase _
      exact ⟨[], cont, rfl, rfl, trivial, phase.selected, rfl,
        phase.read_requested⟩
  | succ count inductionHypothesis =>
      intro cont history phase room
      have announced : history.wordsRead < history.readWords := by
        omega
      obtain ⟨observedStep, nextPhase⟩ := phase.inw host announced
      obtain ⟨responses, final, ran, words, met, finalSelected, file,
        drq⟩ :=
        inductionHypothesis nextPhase
          (by
            simp only [History.after]
            omega)
      have counted :
          history.wordsRead + 1 + count =
            history.wordsRead + (count + 1) := by
        omega
      refine ⟨_ :: responses, final, run_cons observedStep ?_, ?_, ?_,
        finalSelected, file, ?_⟩
      · rw [← counted]
        exact ran
      · rw [dataWords_word, words, List.range_succ_eq_map,
          List.map_cons, List.map_map]
        refine congrArg₂ List.cons rfl ?_
        refine List.map_congr_left fun index _ => ?_
        simp only [History.after, Function.comp_apply]
        congr 2
        omega
      · exact (stepsMeet_cons_iff observedStep).mpr
          ⟨phase.read_requested.mpr announced, met⟩
      · rw [drq, ← counted]
        rfl

/-! ## Writing -/

theorem access_outw_more {cont : AtaController} {history : History}
    (host : HostCalls) (tracks : Tracks cont history)
    (selected : cont.pCurrDev = .master) (val : Uint16)
    (more : history.written.length + 1 < history.writeWords) :
    access cont (host, .outw 0 val) =
      .ok (.none, { cont with master := storedDev cont.master val }) := by
  have offset := tracks.write.offset
  have size := tracks.write.size
  have notLast :
      cont.master.writeBufferOffset + 2 ≠
        cont.master.writeBufferSize := by
    omega
  have called :
      pioOutw host cont 0 val =
        .ok { cont with master := storedDev cont.master val } := by
    rw [pioOutw_eq_ok_iff selected, if_neg notLast]
    exact ⟨rfl, tracks.write.inside_iff.mpr (by omega), rfl⟩
  simp only [access, called, Outcome.ok_bind, Outcome.pure_eq_ok]

theorem access_outw_last {cont : AtaController} {history : History}
    (host : HostCalls) (tracks : Tracks cont history)
    (selected : cont.pCurrDev = .master) (val : Uint16)
    (last : history.written.length + 1 = history.writeWords) :
    access cont (host, .outw 0 val) =
      .ok (.none,
        { cont with
          master := committedDev host cont.master val
          irq14 := true }) := by
  have offset := tracks.write.offset
  have size := tracks.write.size
  have full :
      cont.master.writeBufferOffset + 2 =
        cont.master.writeBufferSize := by
    omega
  have called :
      pioOutw host cont 0 val =
        .ok
          { cont with
            master := committedDev host cont.master val
            irq14 := true } := by
    rw [pioOutw_eq_ok_iff selected, if_pos full]
    exact ⟨rfl, tracks.write.inside_iff.mpr (by omega), rfl⟩
  simp only [access, called, Outcome.ok_bind, Outcome.pure_eq_ok]

/-- The accesses that write words. -/
def outwAll (words : List Uint16) : List (HostCalls × Access) :=
  words.map fun word => (HostCalls.full, .outw 0 word)

/-- A word before the last one. -/
theorem Phase.outw {cont : AtaController} {history : History}
    (phase : Phase cont history .write) (val : Uint16)
    (more : history.written.length + 1 < history.writeWords) :
    accessObserved (cont, history) (HostCalls.full, .outw 0 val) =
        .ok (.none,
          ({ cont with master := storedDev cont.master val },
            history.after cont.currDev.reg (.dataOut val))) ∧
      Phase { cont with master := storedDev cont.master val }
        (history.after cont.currDev.reg (.dataOut val)) .write := by
  have answered :=
    access_outw_more HostCalls.full phase.tracks phase.selected val more
  refine ⟨observed_eq_ok_iff.mpr ⟨answered, rfl⟩, ?_⟩
  apply phase.continued answered phase.selected phase.latest
  simp [eventOf, History.Disturbed, phase.latest]

/-- Writing all announced words that are left. -/
theorem run_dataOut {rest : List Uint16} :
    ∀ {cont : AtaController} {history : History} {val : Uint16},
      Phase cont history .write →
      history.written.length + (val :: rest).length =
        history.writeWords →
      ∃ responses final,
        run accessObserved (cont, history) (outwAll (val :: rest)) =
          .ok (responses,
            (final,
              { history with
                written := history.written ++ (val :: rest) })) ∧
        dataWords responses = [] ∧
        StepsMeet accessObserved Requested (cont, history)
          (outwAll (val :: rest)) ∧
        final.pCurrDev = .master ∧
        final.master.backingfile.data =
          overwrite cont.master.backingfile.data
            (512 * history.writeLba.toNat)
            ((history.written ++ (val :: rest)).flatMap wordBytes) ∧
        ¬ final.master.drq := by
  induction rest with
  | nil =>
      intro cont history val phase exact
      have last : history.written.length + 1 = history.writeWords := exact
      have answered :=
        access_outw_last HostCalls.full phase.tracks phase.selected val last
      have observedStep :
          accessObserved (cont, history) (HostCalls.full, .outw 0 val) =
            .ok (.none, (_, history.after cont.currDev.reg (.dataOut val))) :=
        observed_eq_ok_iff.mpr ⟨answered, rfl⟩
      refine ⟨[.none], _, run_one observedStep, rfl,
        ⟨?_, fun _ _ _ => trivial⟩, phase.selected,
        committedDev_data phase.tracks.write val last
          (HostFile.writesAll_full _ _ _),
        not_drq_of_ready rfl⟩
      exact phase.write_requested.mpr (by omega)
  | cons second rest inductionHypothesis =>
      intro cont history val phase exact
      rw [List.length_cons, List.length_cons] at exact
      obtain ⟨observedStep, nextPhase⟩ := phase.outw val (by omega)
      obtain ⟨responses, final, ran, words, met, finalSelected, file,
        clear⟩ :=
        inductionHypothesis nextPhase
          (by
            simp only [History.after, List.length_append,
              List.length_cons, List.length_nil]
            omega)
      have joined :
          history.written ++ [val] ++ (second :: rest) =
            history.written ++ (val :: second :: rest) := by
        simp
      have requested :
          Requested (cont, history) (HostCalls.full, .outw 0 val) :=
        phase.write_requested.mpr (by omega)
      refine ⟨.none :: responses, final, run_cons observedStep ?_, words,
        (stepsMeet_cons_iff observedStep).mpr ⟨requested, met⟩,
        finalSelected, ?_, clear⟩
      · rw [← joined]
        exact ran
      · rw [← joined]
        exact file

end Kvmulate.Ata
