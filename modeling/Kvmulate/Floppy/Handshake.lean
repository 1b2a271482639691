import Kvmulate.Floppy.Simulation

/-!
# Drivers that obey the handshake

A driver that goes by MSR takes the controller through the phases of the
machine, step by step, whatever it does to the reset bit.
-/

namespace Kvmulate.Floppy

open DeviceLib

/-! ## Writing and reading the FIFO -/

section Fifo

variable {host : HostCalls} {sys after : FloppySystem} {val : Uint8}
variable {machine : Machine}

/-- What a byte in the FIFO leads to. -/
theorem related_writeFifo (settled : Settled sys machine)
    (found : PhaseMatches sys.fdc machine.phase)
    (open' : ¬ Flag sys.fdc msrDio) (asks : machine.Asks sys.dma val)
    (done : writeFifo host sys val = .ok after) :
    Settled after (machine.write val) ∧
      PhaseMatches after.fdc (machine.write val).phase := by
  unfold Machine.Asks at asks
  unfold Machine.write
  cases shown : machine.phase with
  | idle =>
      rw [shown] at found asks
      obtain ⟨command, selects⟩ := Option.ne_none_iff_exists'.mp asks
      obtain ⟨next, same, gathered, written⟩ :=
        @writeFifo_idle host sys command val found selects
      have kept : Settled { sys with fdc := next } machine :=
        settled.of_same rfl rfl same
      rw [written] at done
      exact related_proceed kept gathered command.length_pos done
  | command first params =>
      rw [shown] at found
      obtain ⟨command, gathered, more⟩ := found
      obtain ⟨next, same, extended, written⟩ :=
        @writeFifo_command host sys command first val params gathered more
      have length : (params ++ [val]).length = params.length + 1 := by
        rw [List.length_append, List.length_singleton]
      have proceeds :
          proceed host { sys with fdc := next } command
              ((params ++ [val]).length + 1) = .ok after := by
        rw [length, ← written]
        exact done
      have kept : Settled { sys with fdc := next } machine :=
        settled.of_same rfl rfl same
      exact related_proceed kept extended (by rw [length]; omega) proceeds
  | result next rest =>
      rw [shown] at found
      obtain ⟨index, -, -, dio, -⟩ := found
      exact absurd dio open'

/-- A byte is taken unless it completes a READ DATA command without an image
or a destination. -/
theorem exists_writeFifo_iff
    (found : PhaseMatches sys.fdc machine.phase)
    (open' : ¬ Flag sys.fdc msrDio) (asks : machine.Asks sys.dma val) :
    (∃ after, writeFifo host sys val = .ok after) ↔
      (machine.CompletesReadData →
        sys.fdc.image ≠ none ∧
          InLowMem sys.dma.destOff sys.dma.touched) := by
  unfold Machine.Asks at asks
  unfold Machine.CompletesReadData
  cases shown : machine.phase with
  | idle =>
      rw [shown] at found asks
      obtain ⟨command, selects⟩ := Option.ne_none_iff_exists'.mp asks
      obtain ⟨next, same, gathered, written⟩ :=
        @writeFifo_idle host sys command val found selects
      have taken :=
        @exists_proceed_iff host { sys with fdc := next } _ _ _ gathered
          command.length_pos fun _ length => nomatch length
      rw [written]
      refine taken.trans (iff_of_true ?_ fun never => never.elim)
      intro _ length
      exact nomatch length
  | command first params =>
      rw [shown] at found asks
      obtain ⟨command, gathered, more⟩ := found
      obtain ⟨next, same, extended, written⟩ :=
        @writeFifo_command host sys command first val params gathered more
      have length : (params ++ [val]).length = params.length + 1 := by
        rw [List.length_append, List.length_singleton]
      have isReadData :
          commandOf first = some .readData ↔ command = .readData := by
        rw [gathered.selects, Option.some.injEq]
      have taken :=
        @exists_proceed_iff host { sys with fdc := next } _ _ _ extended
          (by rw [length]; omega) (by
            intro selected eight
            have seven : params.length = 7 := by omega
            have byte :=
              (asks (isReadData.mpr selected) seven).1
            rw [← List.cons_append,
              List.getD_append _ _ _ _ (by rw [List.length_cons]; omega)]
            exact byte)
      rw [length] at taken
      rw [written, taken]
      simp only [isReadData, same.image, and_imp]
      refine imp_congr_right fun _ => ?_
      exact imp_congr ⟨Nat.succ.inj, congrArg Nat.succ⟩ Iff.rfl
  | result next rest =>
      rw [shown] at found
      obtain ⟨index, -, -, dio, -⟩ := found
      exact absurd dio open'

/-- A read of the FIFO delivers the next result. -/
theorem related_readFifo (settled : Settled sys machine)
    (found : PhaseMatches sys.fdc machine.phase)
    (dio : Flag sys.fdc msrDio) :
    ∃ val fdc, floppyInb sys.fdc regDataFifo = .ok (val, fdc) ∧
      machine.read.delivered = machine.delivered ++ [val] ∧
        Settled { sys with fdc := fdc } machine.read ∧
          PhaseMatches fdc machine.read.phase := by
  unfold Machine.read
  cases shown : machine.phase with
  | idle =>
      rw [shown] at found
      exact absurd dio found.2
  | command first params =>
      rw [shown] at found
      obtain ⟨command, gathered, -⟩ := found
      exact absurd dio gathered.dio
  | result next rest =>
      rw [shown] at found
      obtain ⟨index, ndx, len, -, waiting⟩ := found
      have loaded : load sys.fdc.fifo sys.fdc.fifondx = .ok next := by
        rw [ndx]
        exact load_of_drop waiting
      have read :
          floppyInb sys.fdc regDataFifo =
            if sys.fdc.fifolen ≤ sys.fdc.fifondx + 1 then
              .ok (next,
                { sys.fdc with
                  msr := 0xA0, fifondx := 0, irq6 := false })
            else
              .ok (next,
                { sys.fdc with fifondx := sys.fdc.fifondx + 1 }) := by
        unfold floppyInb
        rw [if_neg (by decide : regDataFifo ≠ regMainStatus),
          if_neg (by decide : regDataFifo ≠ regDigitalOut), if_pos rfl,
          loaded]
        rfl
      rw [read]
      cases rest with
      | nil =>
          rw [List.length_nil] at len
          rw [if_pos (by omega)]
          refine ⟨next, _, rfl, rfl, ?_, rfl,
            (by decide : ¬ ((0xA0 : Uint8) &&& msrDio ≠ 0))⟩
          exact settled.of_same rfl rfl
            ⟨rfl, rfl, rfl,
              fun _ => (by decide : (0xA0 : Uint8) &&& msrRqm ≠ 0)⟩
      | cons second others =>
          rw [List.length_cons] at len waiting
          rw [if_neg (by omega)]
          refine ⟨next, _, rfl, rfl, ?_, index + 1, ?_, ?_, dio, ?_⟩
          · exact settled.of_same rfl rfl ⟨rfl, rfl, rfl, id⟩
          · simp only [ndx]
            rfl
          · simp only [len]
            push_cast
            omega
          · have tail := congrArg (List.drop 1) waiting
            rw [List.drop_take, List.drop_drop] at tail
            exact tail

end Fifo

/-! ## Steps -/

section Step

variable {state next : FloppyState} {input : FloppyInput}
variable {response : Option Uint8}

/-- A reset leads to the idle phase from any other. -/
theorem related_writeDor {sys : FloppySystem} {machine : Machine}
    (settled : Settled sys machine)
    (found : PhaseMatches sys.fdc machine.phase) (val : Uint8) :
    Settled { sys with fdc := writeDor sys.fdc val }
        (machine.after (.outb regDigitalOut val)) ∧
      PhaseMatches (writeDor sys.fdc val)
        (machine.after (.outb regDigitalOut val)).phase := by
  unfold writeDor Machine.after
  simp only [if_true]
  by_cases resets : val &&& dorNReset = 0
  · rw [if_pos resets, if_pos resets]
    have ready : msrRqm &&& msrRqm ≠ 0 := by decide
    exact ⟨settled.of_same rfl rfl ⟨rfl, rfl, rfl, fun _ => ready⟩, rfl,
      (by decide : ¬ (msrRqm &&& msrDio ≠ 0))⟩
  · rw [if_neg resets, if_neg resets]
    exact ⟨settled.of_same rfl rfl ⟨rfl, rfl, rfl, id⟩,
      found.of_same rfl rfl rfl rfl⟩

theorem related_step (related : Related state) (obeys : Obeys state input)
    (called : floppyObserved state input = .ok (response, next)) :
    Related next := by
  obtain ⟨sys, history⟩ := state
  obtain ⟨after, later⟩ := next
  obtain ⟨host, step⟩ := input
  obtain ⟨served, rfl⟩ := observed_eq_ok_iff.mp called
  have settled := related.settled
  have found := related.phase
  have delivered := related.delivered
  cases step with
  | outb port val =>
      obtain ⟨written, wrote, done⟩ := Outcome.bind_eq_ok_iff.mp served
      cases done
      rw [DriverHistory.observe_outb]
      have still := history.machine.delivered_after_outb port val
      rcases obeys with rfl | rfl | ⟨rfl, -, open', asks⟩
      · cases wrote
        obtain ⟨nextSettled, nextPhase⟩ :=
          related_writeDor settled found val
        exact ⟨nextSettled, nextPhase, delivered.trans still.symm⟩
      · cases wrote
        exact ⟨settled.of_same rfl rfl ⟨rfl, rfl, rfl, id⟩,
          found.of_same rfl rfl rfl rfl, delivered⟩
      · obtain ⟨nextSettled, nextPhase⟩ :=
          related_writeFifo settled found open' asks wrote
        exact ⟨nextSettled, nextPhase, delivered.trans still.symm⟩
  | inb port =>
      rcases obeys with rfl | rfl | ⟨rfl, -, dio⟩
      · cases served
        exact related
      · cases served
        exact related
      · obtain ⟨val, fdc, read, shown, nextSettled, nextPhase⟩ :=
          related_readFifo settled found dio
        simp only [floppyStep, read, Outcome.ok_bind] at served
        cases served
        refine ⟨nextSettled, nextPhase, ?_⟩
        have both := congrArg (fun bytes => bytes ++ [val]) delivered
        exact both.trans shown.symm
  | program dma =>
      cases served
      exact ⟨settled.of_same rfl rfl (SameDrive.refl _), found, delivered⟩

/-- An access of the driver is answered unless READ DATA cannot transfer. -/
theorem exists_step_iff (related : Related state)
    (obeys : Obeys state input) :
    (∃ response next,
        floppyObserved state input = .ok (response, next)) ↔
      Contained state input := by
  obtain ⟨sys, history⟩ := state
  obtain ⟨host, step⟩ := input
  have observes :
      (∃ response next,
          floppyObserved (sys, history) (host, step) =
            .ok (response, next)) ↔
        ∃ response next,
          floppyStep sys (host, step) = .ok (response, next) := by
    constructor
    · rintro ⟨response, ⟨next, later⟩, called⟩
      exact ⟨response, next, (observed_eq_ok_iff.mp called).1⟩
    · rintro ⟨response, next, served⟩
      exact ⟨response, (next, _),
        observed_eq_ok_iff.mpr ⟨served, rfl⟩⟩
  rw [observes]
  cases step with
  | outb port val =>
      rcases obeys with rfl | rfl | ⟨rfl, -, open', asks⟩
      · exact iff_of_true ⟨_, _, rfl⟩ fun other => nomatch other
      · exact iff_of_true ⟨_, _, rfl⟩ fun other => nomatch other
      · have taken :=
          @exists_writeFifo_iff host sys val history.machine
            related.phase open' asks
        constructor
        · rintro ⟨response, next, served⟩ _
          obtain ⟨written, wrote, -⟩ := Outcome.bind_eq_ok_iff.mp served
          exact taken.mp ⟨written, wrote⟩
        · intro contained
          obtain ⟨written, wrote⟩ := taken.mpr (contained rfl)
          exact ⟨none, written,
            Outcome.bind_eq_ok_iff.mpr ⟨written, wrote, rfl⟩⟩
  | inb port =>
      rcases obeys with rfl | rfl | ⟨rfl, -, dio⟩
      · exact iff_of_true ⟨_, _, rfl⟩ trivial
      · exact iff_of_true ⟨_, _, rfl⟩ trivial
      · obtain ⟨val, fdc, read, -⟩ :=
          related_readFifo related.settled related.phase dio
        exact iff_of_true
          ⟨some val, { sys with fdc := fdc },
            Outcome.bind_eq_ok_iff.mpr ⟨(val, fdc), read, rfl⟩⟩ trivial
  | program dma =>
      exact iff_of_true ⟨_, _, rfl⟩ trivial

end Step

/-! ## The handshake without MSR -/

section Accepts

variable {host : HostCalls} {sys after : FloppySystem} {val : Uint8}
variable {machine : Machine} {dma : Dma}
variable {state next : FloppyState} {input : FloppyInput}
variable {inputs : List FloppyInput}

/-- DIO tells the driver all that it needs. -/
theorem obeys_iff_accepts (related : Related state) :
    Obeys state input ↔
      state.2.machine.Accepts state.1.dma input.2 := by
  have simulates := simulates_of_related related
  have ready := simulates.ready
  have dio := simulates.dio
  unfold Obeys Machine.Accepts
  cases input.2 with
  | outb port val =>
      simp [ready, dio]
  | inb port =>
      simp [ready, dio]
  | program dma =>
      exact Iff.rfl

theorem accepts_outb
    (commanding : ∀ next rest, machine.phase ≠ .result next rest)
    (asks : machine.Asks dma val) :
    machine.Accepts dma (.outb regDataFifo val) :=
  Or.inr (Or.inr ⟨rfl, commanding, asks⟩)

theorem dma_doExecuteCommand
    (done : doExecuteCommand host sys = .ok after) :
    after.dma = sys.dma := by
  unfold doExecuteCommand at done
  rcases Outcome.of_ite_eq_ok done with ⟨_, done⟩ | ⟨_, done⟩
  · obtain ⟨_, -, done⟩ := Outcome.bind_eq_ok_iff.mp done
    obtain ⟨_, -, done⟩ := Outcome.bind_eq_ok_iff.mp done
    obtain ⟨_, -, done⟩ := Outcome.bind_eq_ok_iff.mp done
    cases done
    rfl
  rcases Outcome.of_ite_eq_ok done with ⟨_, done⟩ | ⟨_, done⟩
  · cases done
    rfl
  rcases Outcome.of_ite_eq_ok done with ⟨_, done⟩ | ⟨_, done⟩
  · cases done
    rfl
  rcases Outcome.of_ite_eq_ok done with ⟨_, done⟩ | ⟨_, done⟩
  · cases done
    rfl
  rcases Outcome.of_ite_eq_ok done with ⟨_, done⟩ | ⟨_, done⟩
  · cases done
    rfl
  · cases done
    rfl

theorem dma_writeFifo (done : writeFifo host sys val = .ok after) :
    after.dma = sys.dma := by
  unfold writeFifo at done
  obtain ⟨begun, -, done⟩ := Outcome.bind_eq_ok_iff.mp done
  obtain ⟨fifo, -, done⟩ := Outcome.bind_eq_ok_iff.mp done
  rcases Outcome.of_ite_eq_ok done with ⟨_, done⟩ | ⟨_, done⟩
  · have kept := dma_doExecuteCommand done
    exact kept
  · cases done
    rfl

theorem dma_floppyStep {response : Option Uint8}
    (served : floppyStep sys input = .ok (response, after)) :
    after.dma = dmaAfter sys.dma input.2 := by
  obtain ⟨host, step⟩ := input
  cases step with
  | outb port val =>
      obtain ⟨written, wrote, done⟩ := Outcome.bind_eq_ok_iff.mp served
      cases done
      unfold floppyOutb at wrote
      rcases Outcome.of_ite_eq_ok wrote with ⟨_, wrote⟩ | ⟨_, wrote⟩
      · cases wrote
        rfl
      rcases Outcome.of_ite_eq_ok wrote with ⟨_, wrote⟩ | ⟨_, wrote⟩
      · exact dma_writeFifo wrote
      rcases Outcome.of_ite_eq_ok wrote with ⟨_, wrote⟩ | ⟨_, wrote⟩
      · cases wrote
        rfl
      · cases wrote
  | inb port =>
      obtain ⟨_, -, done⟩ := Outcome.bind_eq_ok_iff.mp served
      cases done
      rfl
  | program dma =>
      cases served
      rfl

theorem floppyObserved_after {response : Option Uint8}
    (called : floppyObserved state input = .ok (response, next)) :
    next.2.machine = state.2.machine.after input.2 ∧
      next.1.dma = dmaAfter state.1.dma input.2 := by
  obtain ⟨sys, history⟩ := state
  obtain ⟨after, later⟩ := next
  obtain ⟨served, rfl⟩ := observed_eq_ok_iff.mp called
  exact ⟨rfl, dma_floppyStep served⟩

theorem floppyRun_after {responses : List (Option Uint8)}
    (ran : run floppyObserved state inputs = .ok (responses, next)) :
    next.2.machine = state.2.machine.afterAll inputs ∧
      next.1.dma = dmaAfterAll state.1.dma inputs := by
  induction inputs generalizing state responses with
  | nil =>
      cases ran
      exact ⟨rfl, rfl⟩
  | cons input rest inductionHypothesis =>
      obtain ⟨response, middle, others, called, ranRest, -⟩ :=
        run_cons_eq_ok_iff.mp ran
      obtain ⟨machine, dma⟩ := floppyObserved_after called
      have later := inductionHypothesis ranRest
      rw [machine, dma] at later
      exact later

/-- A driver that the machine accepts obeys the handshake. -/
theorem stepsMeet_obeys_of_acceptsAll (related : Related state)
    (accepts : AcceptsAll state.2.machine state.1.dma inputs) :
    StepsMeet floppyObserved Obeys state inputs := by
  induction inputs generalizing state with
  | nil =>
      trivial
  | cons input rest inductionHypothesis =>
      have obeys := (obeys_iff_accepts related).mpr accepts.1
      refine ⟨obeys, fun response next called => ?_⟩
      obtain ⟨machine, dma⟩ := floppyObserved_after called
      refine inductionHypothesis (related_step related obeys called) ?_
      rw [machine, dma]
      exact accepts.2

end Accepts

/-! ## Runs -/

section Runs

variable {image : Option (List Byte)}
variable {allocated : Vector Uint8 dmaBufferSize} {dma : Dma}
variable {lowMem : LowMem} {inputs : List FloppyInput}

/-- A driver that has done nothing, behind `x86_floppy_init`. -/
def floppyStart (image : Option (List Byte))
    (allocated : Vector Uint8 dmaBufferSize) (dma : Dma)
    (lowMem : LowMem) : FloppyState :=
  (x86FloppyInit image allocated dma lowMem, DriverHistory.start)

theorem related_start :
    Related (floppyStart image allocated dma lowMem) where
  settled :=
    ⟨rfl, nofun, (by decide : msrRqm &&& msrRqm ≠ 0), rfl, rfl, rfl, rfl⟩
  phase := ⟨rfl, (by decide : ¬ (msrRqm &&& msrDio ≠ 0))⟩
  delivered := rfl

/-- The accesses of a driver that obeys the handshake are all answered exactly
when every READ DATA has an image and a destination. -/
theorem floppy_returns_iff
    (obeys : StepsMeet floppyObserved Obeys
      (floppyStart image allocated dma lowMem) inputs) :
    (∃ responses final,
        run floppyObserved (floppyStart image allocated dma lowMem)
          inputs = .ok (responses, final)) ↔
      StepsMeet floppyObserved Contained
        (floppyStart image allocated dma lowMem) inputs :=
  run_returns_iff_stepsMeet related_step exists_step_iff related_start
    obeys

/-- For every driver that obeys the handshake, the controller answers all
accesses as the machine does exactly when every READ DATA has an image and a
destination. -/
theorem floppy_simulates_iff_contained
    (obeys : StepsMeet floppyObserved Obeys
      (floppyStart image allocated dma lowMem) inputs) :
    ((∃ responses final,
          run floppyObserved (floppyStart image allocated dma lowMem)
            inputs = .ok (responses, final)) ∧
        Throughout floppyObserved Simulates
          (floppyStart image allocated dma lowMem) inputs) ↔
      StepsMeet floppyObserved Contained
        (floppyStart image allocated dma lowMem) inputs := by
  have simulates :=
    throughout_of_stepsMeet related_step simulates_of_related
      related_start obeys
  rw [floppy_returns_iff obeys]
  exact and_iff_left simulates

/-- RECALIBRATE, then SENSE INTERRUPT, whose results are cut off by a reset. -/
theorem floppy_simulates_iff_contained_recalibrate :
    let inputs : List FloppyInput :=
      [.outb regDataFifo 0x07, .outb regDataFifo 0x00,
        .outb regDataFifo 0x08, .inb regDataFifo,
        .outb regDigitalOut 0x00].map fun step => (HostCalls.full, step)
    let start :=
      floppyStart none (Vector.replicate _ 0) Dma.zero
        ⟨Vector.replicate _ 0, Vector.replicate _ 0⟩
    ((∃ responses final,
          run floppyObserved start inputs = .ok (responses, final)) ∧
        Throughout floppyObserved Simulates start inputs) ↔
      StepsMeet floppyObserved Contained start inputs := by
  intro inputs start
  refine floppy_simulates_iff_contained
    (stepsMeet_obeys_of_acceptsAll related_start ?_)
  refine ⟨accepts_outb nofun (by decide : commandOf 0x07 ≠ none), ?_⟩
  refine ⟨accepts_outb nofun nofun, ?_⟩
  refine ⟨accepts_outb nofun (by decide : commandOf 0x08 ≠ none), ?_⟩
  exact ⟨Or.inr (Or.inr ⟨rfl, _, _, rfl⟩), Or.inl rfl, trivial⟩

/-- A destination in the video memory, which `sys_getLowMem` lets pass. -/
def videoDma : Dma :=
  { Dma.zero with
    page := Vector.ofFn fun index => if index = 1 then 0x0A else 0 }

/-- One sector is read to the video memory. -/
theorem floppy_not_always_simulates :
    ¬ ∀ (image : Option (List Byte))
        (allocated : Vector Uint8 dmaBufferSize) (dma : Dma)
        (lowMem : LowMem) (inputs : List FloppyInput),
      StepsMeet floppyObserved Obeys
          (floppyStart image allocated dma lowMem) inputs →
        (∃ responses final,
            run floppyObserved (floppyStart image allocated dma lowMem)
              inputs = .ok (responses, final)) ∧
          Throughout floppyObserved Simulates
            (floppyStart image allocated dma lowMem) inputs := by
  intro always
  let front : List FloppyInput :=
    [0x06, 0x00, 0x00, 0x00, 0x01, 0x02, 0x01, 0x00].map fun val =>
      (HostCalls.full, .outb regDataFifo val)
  let last : FloppyInput := (HostCalls.full, .outb regDataFifo 0x00)
  let start :=
    floppyStart (some []) (Vector.replicate _ 0) videoDma
      ⟨Vector.replicate _ 0, Vector.replicate _ 0⟩
  have accepts :
      AcceptsAll start.2.machine start.1.dma (front ++ [last]) := by
    refine ⟨accepts_outb nofun (by decide : commandOf 0x06 ≠ none), ?_⟩
    refine ⟨accepts_outb nofun nofun, accepts_outb nofun nofun, ?_⟩
    refine ⟨accepts_outb nofun nofun, accepts_outb nofun nofun, ?_⟩
    refine ⟨accepts_outb nofun nofun, accepts_outb nofun nofun, ?_⟩
    refine ⟨accepts_outb nofun nofun, accepts_outb nofun ?_, trivial⟩
    intro _ _
    exact ⟨by decide, by decide⟩
  have obeys :=
    stepsMeet_obeys_of_acceptsAll
      (related_start : Related start) accepts
  have returns :=
    (always (some []) (Vector.replicate _ 0) videoDma
      ⟨Vector.replicate _ 0, Vector.replicate _ 0⟩ (front ++ [last])
      obeys).1
  have contained := (floppy_returns_iff obeys).mp returns
  obtain ⟨responses, final, ran⟩ := returns
  obtain ⟨middle, before, response, ranFront, -⟩ :=
    run_snoc_eq_ok_iff.mp ran
  obtain ⟨machine, dma⟩ := floppyRun_after ranFront
  have completes : middle.2.machine.CompletesReadData := by
    rw [machine]
    exact ⟨by decide, rfl⟩
  have inside := ((contained.of_append ranFront).1 rfl completes).2
  rw [dma] at inside
  exact absurd inside (by decide)

end Runs

end Kvmulate.Floppy
