import Kvmulate.Keyboard.Steps

/-!
# The bytes of the keyboard

Every step that produces bytes puts them at the start of the output buffer.
What the guest reads is what was produced as long as nothing is waiting there.
-/

namespace Kvmulate.Keyboard

open DeviceLib

/-! ## What a step produces and delivers -/

/-- The answers of the controller. -/
def commandBytes (regs : KbdRegs) (cmd : Uint8) : List Uint8 :=
  if cmd = 0x20 then [regs.commandByte]
  else if cmd = 0xA9 then [0x01]
  else if cmd = 0xAA then [0x55]
  else if cmd = 0xAB then [0x00]
  else []

/-- The answers of the keyboard: an acknowledgement and, after a restart, the
result of the self-test. -/
def keyboardBytes (cmd : Uint8) : List Uint8 :=
  if cmd = 0xF0 ∨ cmd = 0xF2 ∨ cmd = 0xF4 ∨ cmd = 0xF5 then [0xFA]
  else if cmd = 0xFF then [0xFA, 0xAA]
  else []

/-- The bytes that a step produces, in order. -/
def produces (regs : KbdRegs) : KbdStep → List Uint8
  | .inject sc bIsPressed => [if bIsPressed then sc else sc ||| 0x80]
  | .outb port val =>
      if port = 0x64 then commandBytes regs val
      else if 0 < regs.cmdparamsLeft then []
      else if 0 < regs.kbdparamsLeft then [0xFA]
      else keyboardBytes val
  | .inb _ => []

/-- The byte that the guest reads from the data port while OBF is set. -/
def delivers (regs : KbdRegs) : KbdStep → KbdResponse → List Uint8
  | .inb port, some val =>
      if port = 0x60 ∧ regs.outputFull then [val] else []
  | _, _ => []

/-- The bytes produced and the bytes read. -/
structure KbdHistory where
  produced : List Uint8
  consumed : List Uint8

namespace KbdHistory

def start : KbdHistory := ⟨[], []⟩

def observe (regs : KbdRegs) (step : KbdStep) (response : KbdResponse)
    (history : KbdHistory) : KbdHistory :=
  ⟨history.produced ++ produces regs step,
    history.consumed ++ delivers regs step response⟩

end KbdHistory

abbrev kbdObserved : Call (KbdRegs × KbdHistory) KbdStep KbdResponse :=
  observed kbdStep KbdHistory.observe

/-! ## The output buffer as a queue -/

/-- The bytes that wait in the output buffer, the next one first. -/
def queued (regs : KbdRegs) : List Uint8 :=
  if regs.outputFull then
    (regs.bufOutput.toList.take (regs.ndxOutput + 1).toNat).reverse
  else []

structure Ready (regs : KbdRegs) : Prop where
  ndxLow : -1 ≤ regs.ndxOutput
  ndxHigh : regs.ndxOutput < 8
  full : regs.outputFull → 0 ≤ regs.ndxOutput
  cmdparams : regs.cmdparamsLeft ≤ 1
  kbdparams : regs.kbdparamsLeft ≤ 1

/-- A step that reads nothing: its bytes replace what was waiting. -/
structure Answers (regs : KbdRegs) (bytes : List Uint8) (next : KbdRegs) :
    Prop where
  ready : Ready next
  queued : queued next = if bytes = [] then queued regs else bytes

theorem outputFull_or_one :
    ∀ status : Uint8, (status ||| 1) &&& 1 ≠ 0 := by
  decide

theorem not_outputFull_and_not_one :
    ∀ status : Uint8, ¬ ((status &&& ~~~1) &&& 1 ≠ 0) := by
  decide

section Functions

variable {regs next : KbdRegs}

/-- A full output buffer answers with what it holds up to its index. -/
theorem answers_of_buffer {bytes : List Uint8} (some : bytes ≠ [])
    (full : next.outputFull)
    (waiting :
      (next.bufOutput.toList.take (next.ndxOutput + 1).toNat).reverse =
        bytes)
    (low : 0 ≤ next.ndxOutput) (high : next.ndxOutput < 8)
    (cmdparams : next.cmdparamsLeft ≤ 1)
    (kbdparams : next.kbdparamsLeft ≤ 1) : Answers regs bytes next where
  ready :=
    { ndxLow := by omega
      ndxHigh := high
      full := fun _ => low
      cmdparams := cmdparams
      kbdparams := kbdparams }
  queued := by
    rw [if_neg some, ← waiting]
    exact if_pos full

theorem answers_single {val : Uint8} (full : next.outputFull)
    (buffer : next.bufOutput = (regs.output val).bufOutput)
    (index : next.ndxOutput = 0)
    (cmdparams : next.cmdparamsLeft ≤ 1)
    (kbdparams : next.kbdparamsLeft ≤ 1) : Answers regs [val] next := by
  obtain ⟨first, rest, list⟩ :
      ∃ first rest, regs.bufOutput.toList = first :: rest :=
    List.exists_cons_of_length_pos (by simp)
  refine answers_of_buffer (List.cons_ne_nil val []) full ?_ (by omega)
    (by omega) cmdparams kbdparams
  rw [buffer, index, KbdRegs.output, Vector.toList_set, list]
  rfl

/-- The output buffer is left alone. -/
theorem answers_silent (ready : Ready regs)
    (status : next.status = regs.status)
    (buffer : next.bufOutput = regs.bufOutput)
    (index : next.ndxOutput = regs.ndxOutput)
    (cmdparams : next.cmdparamsLeft ≤ 1)
    (kbdparams : next.kbdparamsLeft ≤ 1) : Answers regs [] next where
  ready :=
    { ndxLow := index ▸ ready.ndxLow
      ndxHigh := index ▸ ready.ndxHigh
      full := by
        intro full
        unfold KbdRegs.outputFull at full
        rw [status] at full
        rw [index]
        exact ready.full full
      cmdparams := cmdparams
      kbdparams := kbdparams }
  queued := by
    have same : next.outputFull ↔ regs.outputFull := by
      unfold KbdRegs.outputFull
      rw [status]
    rw [if_pos rfl]
    unfold Keyboard.queued
    rw [buffer, index]
    exact if_congr same rfl rfl

theorem answers_output (ready : Ready regs) (val : Uint8) :
    Answers regs [val] (regs.output val) :=
  answers_single (outputFull_or_one regs.status) rfl rfl
    ready.cmdparams ready.kbdparams

theorem answers_acknowledge (ready : Ready regs) :
    Answers regs [0xFA] regs.acknowledge :=
  answers_single (by decide : (1 : Uint8) &&& 1 ≠ 0) rfl rfl
    ready.cmdparams ready.kbdparams

/-- The two bytes of a restart come out in the order that is asked for. -/
theorem answers_restart (ready : Ready regs) :
    Answers regs [0xFA, 0xAA] regs.restart := by
  obtain ⟨first, others, list⟩ :
      ∃ first others, regs.bufOutput.toList = first :: others :=
    List.exists_cons_of_length_pos (by simp)
  have length := congrArg List.length list
  rw [Vector.length_toList, List.length_cons] at length
  obtain ⟨second, rest, others⟩ :
      ∃ second rest, others = second :: rest :=
    List.exists_cons_of_length_pos (by omega)
  subst others
  refine answers_of_buffer (List.cons_ne_nil _ _)
    (by decide : (1 : Uint8) &&& 1 ≠ 0) ?_ (by decide : (0 : Int) ≤ 1)
    (by decide : (1 : Int) < 8) ready.cmdparams ready.kbdparams
  simp only [KbdRegs.restart, Vector.toList_set, list]
  rfl

theorem answers_inject (ready : Ready regs) (sc : Uint8)
    (bIsPressed : Bool) :
    Answers regs (produces regs (.inject sc bIsPressed))
      (kbdInject regs sc bIsPressed) :=
  answers_single (outputFull_or_one regs.status) rfl rfl
    ready.cmdparams ready.kbdparams

/-! ## Guest writes -/

theorem answers_commanded (ready : Ready regs) {cmd : Uint8}
    (commanded : Commanded regs cmd next) :
    Answers regs (commandBytes regs cmd) next := by
  cases commanded with
  | readByte =>
      exact answers_single (outputFull_or_one regs.status) rfl rfl
        (Int.le_refl 1) ready.kbdparams
  | expects takes =>
      rcases takes with rfl | rfl | rfl | rfl
      all_goals
        exact answers_silent ready rfl rfl rfl (Int.le_refl 1)
          ready.kbdparams
  | answers known =>
      rcases known with ⟨rfl, rfl⟩ | ⟨rfl, rfl⟩ | ⟨rfl, rfl⟩
      · exact answers_output ready 0x01
      · exact answers_output ready 0x55
      · exact answers_output ready 0x00
  | silent known =>
      rcases known with rfl | rfl | rfl
      all_goals
        exact answers_silent ready rfl rfl rfl ready.cmdparams
          ready.kbdparams

theorem answers_kbdCommanded (ready : Ready regs) {cmd : Uint8}
    (commanded : KbdCommanded regs cmd next) :
    Answers regs (keyboardBytes cmd) next := by
  cases commanded with
  | silent =>
      exact answers_silent ready rfl rfl rfl ready.cmdparams
        ready.kbdparams
  | leds =>
      exact answers_silent ready rfl rfl rfl ready.cmdparams
        (Int.le_refl 1)
  | scancode =>
      exact answers_single (by decide : (1 : Uint8) &&& 1 ≠ 0) rfl rfl
        ready.cmdparams (Int.le_refl 1)
  | acknowledges known =>
      rcases known with rfl | rfl | rfl
      all_goals exact answers_acknowledge ready
  | restarts => exact answers_restart ready

/-- What a byte written to the data port produces. -/
theorem produces_data (regs : KbdRegs) (val : Uint8) :
    produces regs (.outb 0x60 val) =
      match regs.route with
      | .param => []
      | .kbdParam => [0xFA]
      | .kbdCommand => keyboardBytes val := by
  rw [produces, if_neg (by decide : ¬ (0x60 : Uint16) = 0x64),
    KbdRegs.route]
  by_cases expected : 0 < regs.cmdparamsLeft
  · rw [if_pos expected, if_pos expected]
  rw [if_neg expected, if_neg expected]
  by_cases expectedKbd : 0 < regs.kbdparamsLeft
  · rw [if_pos expectedKbd, if_pos expectedKbd]
  · rw [if_neg expectedKbd, if_neg expectedKbd]

/-! ## Guest reads -/

/-- A read takes the byte that it delivers from the front of the queue. -/
structure Takes (regs : KbdRegs) (bytes : List Uint8) (next : KbdRegs) :
    Prop where
  ready : Ready next
  queued : queued regs = bytes ++ queued next

theorem queued_of_outputFull (full : regs.outputFull) :
    queued regs =
      (regs.bufOutput.toList.take (regs.ndxOutput + 1).toNat).reverse :=
  if_pos full

theorem queued_of_not_outputFull (empty : ¬ regs.outputFull) :
    queued regs = [] :=
  if_neg empty

theorem queued_eq_nil_iff (ready : Ready regs) :
    queued regs = [] ↔ ¬ regs.outputFull := by
  constructor
  · intro nothing full
    have low := ready.full full
    rw [queued_of_outputFull full, List.reverse_eq_nil_iff] at nothing
    have length := congrArg List.length nothing
    rw [List.length_take, Vector.length_toList, List.length_nil] at length
    omega
  · exact queued_of_not_outputFull

/-- The byte at the index is the next one. -/
theorem queued_of_load {val : Uint8}
    (loaded : load regs.bufOutput regs.ndxOutput = .ok val)
    (full : regs.outputFull) :
    queued regs =
      val :: (regs.bufOutput.toList.take regs.ndxOutput.toNat).reverse := by
  rw [queued_of_outputFull full, take_of_load loaded, List.reverse_append,
    List.reverse_singleton, List.singleton_append]

theorem delivers_data (full : regs.outputFull) (val : Uint8) :
    delivers regs (.inb 0x60) (some val) = [val] :=
  if_pos ⟨rfl, full⟩

theorem delivers_of_not_outputFull (empty : ¬ regs.outputFull)
    (port : Uint16) (val : Uint8) :
    delivers regs (.inb port) (some val) = [] :=
  if_neg fun both => empty both.2

theorem takes_nothing (ready : Ready regs) (below : regs.ndxOutput < 0)
    (val : Uint8) :
    Takes regs (delivers regs (.inb 0x60) (some val)) regs where
  ready := ready
  queued := by
    have empty : ¬ regs.outputFull := fun full => by
      have low := ready.full full
      omega
    rw [delivers_of_not_outputFull empty, List.nil_append]

theorem takes_last (ready : Ready regs) {val : Uint8}
    (last : regs.ndxOutput = 0)
    (loaded : load regs.bufOutput regs.ndxOutput = .ok val) :
    Takes regs (delivers regs (.inb 0x60) (some val)) regs.emptied := by
  have cleared : ¬ regs.emptied.outputFull :=
    not_outputFull_and_not_one regs.status
  have index : regs.emptied.ndxOutput = -1 := by
    rw [KbdRegs.emptied, last]
    rfl
  refine ⟨⟨by omega, by omega, fun full => absurd full cleared,
    ready.cmdparams, ready.kbdparams⟩, ?_⟩
  rw [queued_of_not_outputFull cleared, List.append_nil]
  by_cases full : regs.outputFull
  · rw [queued_of_load loaded full, delivers_data full, last]
    rfl
  · rw [queued_of_not_outputFull full, delivers_of_not_outputFull full]

theorem takes_more (ready : Ready regs) {val : Uint8}
    (more : 0 < regs.ndxOutput)
    (loaded : load regs.bufOutput regs.ndxOutput = .ok val) :
    Takes regs (delivers regs (.inb 0x60) (some val)) regs.advanced := by
  have high := ready.ndxHigh
  have index : regs.advanced.ndxOutput = regs.ndxOutput - 1 := rfl
  have same : regs.advanced.outputFull ↔ regs.outputFull := Iff.rfl
  refine ⟨⟨by omega, by omega, fun _ => by omega, ready.cmdparams,
    ready.kbdparams⟩, ?_⟩
  by_cases full : regs.outputFull
  · rw [queued_of_load loaded full, delivers_data full,
      queued_of_outputFull (same.mpr full), List.singleton_append, index,
      Int.sub_add_cancel]
    rfl
  · rw [queued_of_not_outputFull full, delivers_of_not_outputFull full,
      queued_of_not_outputFull fun full' => full (same.mp full')]
    rfl

/-- What one step does to the queue: it answers, or it takes what it
delivers. -/
theorem answers_or_takes {step : KbdStep} {response : KbdResponse}
    (ready : Ready regs)
    (called : kbdStep regs step = .ok (response, next)) :
    (delivers regs step response = [] ∧
        Answers regs (produces regs step) next) ∨
      (produces regs step = [] ∧
        Takes regs (delivers regs step response) next) := by
  have cmdparams := ready.cmdparams
  have kbdparams := ready.kbdparams
  cases stepped_of_kbdStep cmdparams kbdparams called with
  | inject => exact Or.inl ⟨rfl, answers_inject ready _ _⟩
  | command commanded =>
      exact Or.inl ⟨rfl, answers_commanded ready commanded⟩
  | param route _ _ =>
      rw [produces_data, route]
      exact Or.inl ⟨rfl, answers_silent ready rfl rfl rfl
        (by simp only [KbdRegs.received]; omega) kbdparams⟩
  | kbdParam route _ =>
      rw [produces_data, route]
      exact Or.inl ⟨rfl, answers_single
        (by decide : (1 : Uint8) &&& 1 ≠ 0) rfl rfl cmdparams
        (by simp only [KbdRegs.acknowledge, KbdRegs.receivedKbd]; omega)⟩
  | kbdCommand route commanded =>
      rw [produces_data, route]
      exact Or.inl ⟨rfl, answers_kbdCommanded ready commanded⟩
  | status => exact Or.inr ⟨rfl, ready, rfl⟩
  | nothing below =>
      exact Or.inr ⟨rfl, takes_nothing ready below 0x00⟩
  | last index loaded =>
      exact Or.inr ⟨rfl, takes_last ready index loaded⟩
  | more index loaded =>
      exact Or.inr ⟨rfl, takes_more ready index loaded⟩

/-! ## Draining -/

/-- The data port always answers. -/
theorem exists_kbdInb (ready : Ready regs) :
    ∃ val next, kbdInb regs 0x60 = .ok (val, next) := by
  unfold kbdInb
  rw [if_neg (by decide : (0x60 : Uint16) ≠ 0x64), if_pos rfl]
  by_cases below : regs.ndxOutput < 0
  · rw [if_pos below]
    exact ⟨0x00, regs, rfl⟩
  · rw [if_neg below]
    obtain ⟨ret, loaded⟩ :=
      @load_of_indexes _ _ regs.bufOutput regs.ndxOutput
        ⟨Int.not_lt.mp below, ready.ndxHigh⟩
    simp only [loaded, Outcome.ok_bind]
    by_cases last : regs.ndxOutput - 1 < 0
    · rw [if_pos last]
      exact ⟨ret, _, rfl⟩
    · rw [if_neg last]
      exact ⟨ret, _, rfl⟩

/-- What is queued is what the guest reads until OBF is clear. -/
theorem run_drain {bytes : List Uint8} (ready : Ready regs)
    (waiting : queued regs = bytes) :
    ∃ drained,
      run kbdStep regs (List.replicate bytes.length (.inb 0x60)) =
          .ok (bytes.map some, drained) ∧
        ¬ drained.outputFull := by
  induction bytes generalizing regs with
  | nil =>
      exact ⟨regs, rfl, (queued_eq_nil_iff ready).mp waiting⟩
  | cons byte rest inductionHypothesis =>
      have full : regs.outputFull := by
        by_contra empty
        rw [queued_of_not_outputFull empty] at waiting
        cases waiting
      obtain ⟨val, next, read⟩ := exists_kbdInb ready
      have called : kbdStep regs (.inb 0x60) = .ok (some val, next) := by
        rw [kbdStep, read]
        rfl
      have taken : Takes regs [val] next := by
        rcases answers_or_takes ready called with
          ⟨silent, -⟩ | ⟨-, taken⟩
        · rw [delivers_data full] at silent
          cases silent
        · rw [delivers_data full] at taken
          exact taken
      have front : byte :: rest = val :: queued next := by
        rw [← waiting, taken.queued]
        rfl
      have first := List.head_eq_of_cons_eq front
      have others := List.tail_eq_of_cons_eq front
      obtain ⟨drained, ran, empty⟩ :=
        inductionHypothesis taken.ready others.symm
      refine ⟨drained, ?_, empty⟩
      rw [first]
      exact run_cons called ran

end Functions

/-! ## Runs -/

/-- What was read and what is waiting is what was produced. -/
def Delivered (state : KbdRegs × KbdHistory) : Prop :=
  state.2.consumed ++ queued state.1 = state.2.produced

/-- A step that produces a byte finds OBF clear. -/
def FindsEmpty (state : KbdRegs × KbdHistory) (step : KbdStep) : Prop :=
  produces state.1 step ≠ [] → ¬ state.1.outputFull

/-- The data port is read while OBF is set. -/
def ReadsFull (state : KbdRegs × KbdHistory) (step : KbdStep) : Prop :=
  step = .inb 0x60 → state.1.outputFull

def outstanding (history : KbdHistory) : Nat :=
  history.produced.length - history.consumed.length

theorem ready_init : Ready x86KeyboardInit where
  ndxLow := by decide
  ndxHigh := by decide
  full := fun _ => by decide
  cmdparams := by decide
  kbdparams := by decide

theorem ready_kbdStep {regs next : KbdRegs} {step : KbdStep}
    {response : KbdResponse} (ready : Ready regs)
    (called : kbdStep regs step = .ok (response, next)) :
    Ready next := by
  rcases answers_or_takes ready called with
    ⟨_, answered⟩ | ⟨_, taken⟩
  · exact answered.ready
  · exact taken.ready

/-- The registers of an observed state are ready. -/
def ReadyState (state : KbdRegs × KbdHistory) : Prop :=
  Ready state.1

theorem ready_kbdObserved {state next : KbdRegs × KbdHistory}
    {step : KbdStep} {response : KbdResponse} (ready : ReadyState state)
    (called : kbdObserved state step = .ok (response, next)) :
    ReadyState next := by
  obtain ⟨regs, history⟩ := state
  obtain ⟨after, later⟩ := next
  exact ready_kbdStep ready (observed_eq_ok_iff.mp called).1

/-- Only a step that produces a byte on top of another one loses one. -/
theorem delivered_kbdObserved {state next : KbdRegs × KbdHistory}
    {step : KbdStep} {response : KbdResponse} (ready : ReadyState state)
    (delivered : Delivered state)
    (called : kbdObserved state step = .ok (response, next)) :
    Delivered next ↔ FindsEmpty state step := by
  obtain ⟨regs, history⟩ := state
  obtain ⟨after, later⟩ := next
  obtain ⟨served, rfl⟩ := observed_eq_ok_iff.mp called
  unfold Delivered at delivered ⊢
  unfold FindsEmpty
  simp only [KbdHistory.observe] at delivered ⊢
  rw [← delivered, ← queued_eq_nil_iff ready]
  rcases answers_or_takes ready served with
    ⟨nothing, answered⟩ | ⟨nothing, taken⟩
  · rw [nothing, List.append_nil, answered.queued, List.append_assoc,
      List.append_cancel_left_eq]
    by_cases silent : produces regs step = []
    · simp [silent]
    · simp [silent]
  · simp [nothing, taken.queued]

/-- In every run the bytes of the keyboard reach the guest in order, each
once, exactly when none is produced while another one is waiting. -/
theorem delivered_iff_findsEmpty {steps : List KbdStep}
    {responses : List KbdResponse} {regs : KbdRegs}
    {history : KbdHistory}
    (ran : run kbdObserved (x86KeyboardInit, KbdHistory.start) steps =
      .ok (responses, (regs, history))) :
    (Throughout kbdObserved Delivered
        (x86KeyboardInit, KbdHistory.start) steps ↔
      StepsMeet kbdObserved FindsEmpty
        (x86KeyboardInit, KbdHistory.start) steps) ∧
      ∃ drained,
        run kbdStep regs
            (List.replicate (queued regs).length (.inb 0x60)) =
          .ok ((queued regs).map some, drained) ∧
        ¬ drained.outputFull := by
  have initially : ReadyState (x86KeyboardInit, KbdHistory.start) :=
    ready_init
  have lastly := run_invariant ready_kbdObserved initially ran
  refine ⟨?_, run_drain lastly rfl⟩
  exact throughout_iff_stepsMeet ready_kbdObserved delivered_kbdObserved
    initially rfl ran

/-- A restart read to its end. -/
theorem delivered_iff_findsEmpty_restart :
    Throughout kbdObserved Delivered
        (x86KeyboardInit, KbdHistory.start)
        [.outb 0x60 0xFF, .inb 0x60, .inb 0x60] ↔
      StepsMeet kbdObserved FindsEmpty
        (x86KeyboardInit, KbdHistory.start)
        [.outb 0x60 0xFF, .inb 0x60, .inb 0x60] :=
  (delivered_iff_findsEmpty
    (rfl : run kbdObserved (x86KeyboardInit, KbdHistory.start)
        [.outb 0x60 0xFF, .inb 0x60, .inb 0x60] =
      .ok ([none, some 0xFA, some 0xAA], _))).1

/-- A key is pressed and released before the guest reads. -/
theorem not_always_delivered :
    ¬ ∀ (steps : List KbdStep) (responses : List KbdResponse)
        (final : KbdRegs × KbdHistory),
      run kbdObserved (x86KeyboardInit, KbdHistory.start) steps =
          .ok (responses, final) →
        StepsMeet kbdObserved ReadsFull
            (x86KeyboardInit, KbdHistory.start) steps →
          Throughout kbdObserved (fun state => outstanding state.2 ≤ 8)
              (x86KeyboardInit, KbdHistory.start) steps →
            Throughout kbdObserved Delivered
              (x86KeyboardInit, KbdHistory.start) steps := by
  intro always
  have delivered :=
    always [.inject 0x1E true, .inject 0x1E false, .inb 0x60] _ _ rfl
  have reads :
      StepsMeet kbdObserved ReadsFull
        (x86KeyboardInit, KbdHistory.start)
        [.inject 0x1E true, .inject 0x1E false, .inb 0x60] := by
    refine ⟨(fun read => nomatch read), fun _ _ called => ?_⟩
    cases called
    refine ⟨(fun read => nomatch read), fun _ _ called => ?_⟩
    cases called
    refine ⟨fun _ => by decide, fun _ _ called => ?_⟩
    trivial
  have few :
      Throughout kbdObserved (fun state => outstanding state.2 ≤ 8)
        (x86KeyboardInit, KbdHistory.start)
        [.inject 0x1E true, .inject 0x1E false, .inb 0x60] := by
    refine ⟨by decide, fun _ _ called => ?_⟩
    cases called
    refine ⟨by decide, fun _ _ called => ?_⟩
    cases called
    refine ⟨by decide, fun _ _ called => ?_⟩
    cases called
    exact (by decide : 2 - 1 ≤ 8)
  have lastly :=
    ((((delivered reads few).2 _ _ rfl).2 _ _ rfl).2 _ _ rfl).head
  exact absurd (congrArg List.length lastly) (by decide)

end Kvmulate.Keyboard
