import Kvmulate.Ata.Transfers

/-!
# Writes as a whole

The words of WRITE SECTORS reach the file all at once or not at all, whatever
else the guest does between them.
-/

namespace Kvmulate.Ata

open DeviceLib

/-- The words that the guest writes to the data port. -/
def outWords (inputs : List (HostCalls × Access)) : List Uint16 :=
  inputs.filterMap fun input =>
    match input.2 with
    | .outw _ val => some val
    | _ => none

theorem outWords_append (first second : List (HostCalls × Access)) :
    outWords (first ++ second) = outWords first ++ outWords second :=
  List.filterMap_append

/-- The two histories are of the same WRITE SECTORS, with more words behind
those that were written. -/
structure Continues (history later : History) (words : List Uint16) :
    Prop where
  written : later.written = history.written ++ words
  writeWords : later.writeWords = history.writeWords
  writeLba : later.writeLba = history.writeLba

/-- The file once the words have followed those of the history. -/
def fileAfter (data : List Uint8) (history : History)
    (words : List Uint16) : List Uint8 :=
  if words ≠ [] ∧
      history.written.length + words.length = history.writeWords then
    overwrite data (512 * history.writeLba.toNat)
      ((history.written ++ words).flatMap wordBytes)
  else data

theorem fileAfter_nil (data : List Uint8) (history : History) :
    fileAfter data history [] = data :=
  if_neg fun both => both.1 rfl

section Step

variable {cont next : AtaController} {history : History}
variable {host : HostCalls} {guest : Access} {response : Response}

/-- Without another WRITE SECTORS, an access adds the word that it writes. -/
theorem continues_step (other : ¬ WriteCommanded cont guest) :
    Continues history (history.after cont.currDev.reg (eventOf cont guest))
      (outWords [(host, guest)]) := by
  have same : ∀ later : History, later.written = history.written →
      later.writeWords = history.writeWords →
        later.writeLba = history.writeLba →
          Continues history later [] := by
    intro later written words lba
    exact ⟨written.trans (List.append_nil _).symm, words, lba⟩
  cases guest with
  | outw address val => exact ⟨rfl, rfl, rfl⟩
  | inw address => exact same _ rfl rfl rfl
  | inb address => exact same _ rfl rfl rfl
  | outb address val =>
      change Continues history _ []
      unfold WriteCommanded at other
      generalize seen : eventOf cont (.outb address val) = event at other ⊢
      cases event with
      | register => exact same _ rfl rfl rfl
      | reset => exact same _ rfl rfl rfl
      | dataIn => exact same _ rfl rfl rfl
      | dataOut word =>
          simp only [eventOf] at seen
          split_ifs at seen
      | command cmd =>
          have different : cmd ≠ cmdWriteSectorsCode := fun is =>
            other (congrArg Event.command is)
          unfold History.after
          simp only [if_neg different]
          split_ifs <;> exact same _ rfl rfl rfl

/-- A word completes the write or leaves the file alone. -/
theorem fileAfter_step (tracks : Tracks cont history)
    (full : host = HostCalls.full)
    (called : access cont (host, guest) = .ok (response, next)) :
    next.master.backingfile.data =
      fileAfter cont.master.backingfile.data history
        (outWords [(host, guest)]) := by
  rw [full] at called
  obtain ⟨agree, frame, commit⟩ :=
    commitLaw_of_tracks tracks guest response next called
  cases guest with
  | outw address val =>
      by_cases last : history.written.length + 1 = history.writeWords
      · have committed := (commit address val rfl (agree.mpr last)).2
        exact committed.trans (if_pos ⟨List.cons_ne_nil _ _, last⟩).symm
      · have kept := frame fun commits => last (agree.mp commits)
        exact kept.trans (if_neg fun both => last both.2).symm
  | outb => exact (frame not_false).trans (fileAfter_nil _ _).symm
  | inb => exact (frame not_false).trans (fileAfter_nil _ _).symm
  | inw => exact (frame not_false).trans (fileAfter_nil _ _).symm

/-- WRITE SECTORS is only accepted for some sectors. -/
theorem count_of_writeSectors (fixed : Fixed cont)
    (selected : cont.pCurrDev = .master)
    (called : access cont (host, .outb portWCommand cmdWriteSectorsCode) =
      .ok (response, next)) :
    cont.master.reg .sectorCount ≠ 0 := by
  have served := served_of_access fixed called
  rw [eventOf_command fixed selected] at served
  generalize given : Event.command cmdWriteSectorsCode = event at served
  cases served with
  | writeSectors _ _ count => exact count
  | nonData _ _ other => exact absurd (Event.command.inj given).symm other
  | readSectors => exact absurd (Event.command.inj given) (by decide)
  | identify => exact absurd (Event.command.inj given) (by decide)
  | register => cases given
  | reset => cases given
  | dataIn => cases given
  | dataOut => cases given
  | commit => cases given

end Step

/-- Words behind words. -/
theorem fileAfter_append {data : List Uint8} {history later : History}
    {first second : List Uint16} (continues : Continues history later first)
    (bound : (history.written ++ (first ++ second)).length ≤
      history.writeWords) :
    fileAfter (fileAfter data history first) later second =
      fileAfter data history (first ++ second) := by
  obtain ⟨written, words, lba⟩ := continues
  have length : (history.written ++ (first ++ second)).length =
      history.written.length + (first.length + second.length) := by
    simp only [List.length_append]
  rw [length] at bound
  cases second with
  | nil => rw [fileAfter_nil, List.append_nil]
  | cons word rest =>
      rw [List.length_cons] at bound length
      have early : fileAfter data history first = data :=
        if_neg fun both => by omega
      rw [early]
      unfold fileAfter
      rw [written, words, lba, List.append_assoc]
      refine if_congr ?_ rfl rfl
      simp only [List.length_append, List.length_cons, ne_eq,
        List.append_eq_nil_iff, reduceCtorEq, and_false,
        not_false_eq_true, true_and, Nat.add_assoc]

section Run

variable {cont final : AtaController} {history : History}
variable {inputs : List (HostCalls × Access)} {responses : List Response}

/-- The file after a run that gives no other WRITE SECTORS. -/
theorem fileAfter_run (tracks : Tracks cont history)
    (full : ∀ input ∈ inputs, input.1 = HostCalls.full)
    (keeps : StepsMeet access
      (fun cont (input : HostCalls × Access) =>
        ¬ WriteCommanded cont input.2) cont inputs)
    (ran : run access cont inputs = .ok (responses, final)) :
    final.master.backingfile.data =
        fileAfter cont.master.backingfile.data history
          (outWords inputs) ∧
      ∃ later, Tracks final later ∧
        Continues history later (outWords inputs) := by
  induction inputs generalizing cont history responses with
  | nil =>
      cases ran
      exact ⟨(fileAfter_nil _ _).symm, history, tracks,
        (List.append_nil _).symm, rfl, rfl⟩
  | cons input rest inductionHypothesis =>
      obtain ⟨response, next, others, called, ranRest, rfl⟩ :=
        run_cons_eq_ok_iff.mp ran
      obtain ⟨host, guest⟩ := input
      have one :=
        fileAfter_step tracks (full _ List.mem_cons_self) called
      have continues := @continues_step cont history host guest keeps.1
      obtain ⟨rested, later, laterTracks, laterContinues⟩ :=
        inductionHypothesis (tracks.step called)
          (fun other mem => full other (List.mem_cons_of_mem _ mem))
          (keeps.2 response next called) ranRest
      have split : outWords ((host, guest) :: rest) =
          outWords [(host, guest)] ++ outWords rest :=
        outWords_append [(host, guest)] rest
      have whole : Continues history later
          (outWords [(host, guest)] ++ outWords rest) := by
        refine ⟨?_, ?_, ?_⟩
        · rw [laterContinues.written, continues.written,
            List.append_assoc]
        · rw [laterContinues.writeWords, continues.writeWords]
        · rw [laterContinues.writeLba, continues.writeLba]
      have bound := laterTracks.write.bound
      rw [whole.written, whole.writeWords] at bound
      rw [split, rested, one, fileAfter_append continues bound]
      exact ⟨rfl, later, laterTracks, whole⟩

/-- The words that were announced are accepted. -/
theorem exists_run_outw {words : List Uint16} (tracks : Tracks cont history)
    (selected : cont.pCurrDev = .master)
    (fits : history.written.length + words.length ≤ history.writeWords) :
    ∃ responses final,
      run access cont (outwAll words) = .ok (responses, final) ∧
        final.pCurrDev = .master := by
  induction words generalizing cont history with
  | nil => exact ⟨[], cont, rfl, selected⟩
  | cons val rest inductionHypothesis =>
      rw [List.length_cons] at fits
      have one : ∃ next,
          access cont (HostCalls.full, .outw 0 val) = .ok (.none, next) ∧
            next.pCurrDev = .master := by
        by_cases last : history.written.length + 1 = history.writeWords
        · exact ⟨_,
            access_outw_last HostCalls.full tracks selected val last,
            selected⟩
        · exact ⟨_,
            access_outw_more HostCalls.full tracks selected val (by omega),
            selected⟩
      obtain ⟨next, called, still⟩ := one
      have fitsRest : (history.after cont.currDev.reg
          (.dataOut val)).written.length + rest.length ≤
            history.writeWords := by
        change (history.written ++ [val]).length + rest.length ≤ _
        rw [List.length_append, List.length_singleton]
        omega
      obtain ⟨responses, final, ran, selectedFinal⟩ :=
        inductionHypothesis (tracks.step called) still fitsRest
      exact ⟨_, final, run_cons called ran, selectedFinal⟩

end Run

end Kvmulate.Ata
