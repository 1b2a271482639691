import Kvmulate.Keyboard.Delivery
import Kvmulate.Lib.Latch

/-!
# The flag, the index and the interrupt

OBF, the index into the output buffer and IRQ 1 are written one by one.  They
belong together once the first byte was produced or read; before that, the
index says that a byte is waiting and the flag does not.
-/

namespace Kvmulate.Keyboard

open DeviceLib

/-- OBF is set exactly while unread bytes remain. -/
def FlagAgrees (regs : KbdRegs) : Prop :=
  regs.outputFull ↔ 0 ≤ regs.ndxOutput

instance (regs : KbdRegs) : Decidable (FlagAgrees regs) :=
  inferInstanceAs (Decidable (_ ↔ _))

/-- A byte is produced, or the data port is read. -/
def Settles (regs : KbdRegs) (step : KbdStep) : Prop :=
  produces regs step ≠ [] ∨ step = .inb 0x60

/-- The interrupt is raised only for a byte that is waiting, and the counters
stay where they index their buffers. -/
structure Sound (regs : KbdRegs) : Prop where
  irq : regs.irq1 = true → regs.outputFull ∧ 0 ≤ regs.ndxOutput
  index : -1 ≤ regs.ndxOutput ∧ regs.ndxOutput ≤ 1
  cmdparams : regs.cmdparamsLeft = 0 ∨ regs.cmdparamsLeft = 1
  kbdparams : regs.kbdparamsLeft = 0 ∨ regs.kbdparamsLeft = 1

/-- What the flag, the index and the interrupt owe one another. -/
structure Joint (regs : KbdRegs) : Prop where
  irq : regs.irq1 = true → regs.outputFull
  full : regs.outputFull → 0 ≤ regs.ndxOutput
  low : -1 ≤ regs.ndxOutput
  high : regs.ndxOutput ≤ 1
  two : regs.ndxOutput = 1 → regs.outputFull

structure Counts (regs : KbdRegs) : Prop where
  cmdparams : regs.cmdparamsLeft = 0 ∨ regs.cmdparamsLeft = 1
  kbdparams : regs.kbdparamsLeft = 0 ∨ regs.kbdparamsLeft = 1

/-! ## Writes and key events -/

/-- The output buffer and the interrupt are as before. -/
structure SameFlags (regs next : KbdRegs) : Prop where
  status : next.status = regs.status
  index : next.ndxOutput = regs.ndxOutput
  irq : next.irq1 = regs.irq1

/-- The output buffer was filled. -/
structure Filled (next : KbdRegs) : Prop where
  full : next.outputFull
  low : 0 ≤ next.ndxOutput
  high : next.ndxOutput ≤ 1

/-- Where bytes are produced the buffer is filled, and nowhere else. -/
def FlagsFollow (regs : KbdRegs) (bytes : List Uint8) (next : KbdRegs) :
    Prop :=
  bytes = [] ∧ SameFlags regs next ∨ bytes ≠ [] ∧ Filled next

section Steps

variable {regs next : KbdRegs} {cmd : Uint8} {step : KbdStep}
variable {response : KbdResponse}

theorem FlagsFollow.same (same : SameFlags regs next) :
    FlagsFollow regs [] next :=
  Or.inl ⟨rfl, same⟩

theorem FlagsFollow.single {val : Uint8} (full : next.outputFull)
    (index : next.ndxOutput = 0) : FlagsFollow regs [val] next :=
  Or.inr ⟨List.cons_ne_nil val [], full, by omega, by omega⟩

theorem flagsFollow_acknowledge :
    FlagsFollow regs [0xFA] next.acknowledge :=
  .single (by decide : (1 : Uint8) &&& 1 ≠ 0) rfl

theorem flagsFollow_commanded (commanded : Commanded regs cmd next) :
    FlagsFollow regs (commandBytes regs cmd) next := by
  cases commanded with
  | readByte => exact .single (outputFull_or_one regs.status) rfl
  | expects takes =>
      rcases takes with rfl | rfl | rfl | rfl
      all_goals exact .same ⟨rfl, rfl, rfl⟩
  | answers known =>
      rcases known with ⟨rfl, rfl⟩ | ⟨rfl, rfl⟩ | ⟨rfl, rfl⟩
      all_goals exact .single (outputFull_or_one regs.status) rfl
  | silent known =>
      rcases known with rfl | rfl | rfl
      all_goals exact .same ⟨rfl, rfl, rfl⟩

theorem flagsFollow_kbdCommanded (commanded : KbdCommanded regs cmd next) :
    FlagsFollow regs (keyboardBytes cmd) next := by
  cases commanded with
  | silent => exact .same ⟨rfl, rfl, rfl⟩
  | leds => exact .same ⟨rfl, rfl, rfl⟩
  | scancode => exact flagsFollow_acknowledge
  | acknowledges known =>
      rcases known with rfl | rfl | rfl
      all_goals exact flagsFollow_acknowledge
  | restarts =>
      exact Or.inr ⟨List.cons_ne_nil _ _,
        (by decide : (1 : Uint8) &&& 1 ≠ 0),
        (by decide : (0 : Int) ≤ 1), Int.le_refl 1⟩

theorem flagsFollow_stepped (stepped : Stepped regs step none next) :
    FlagsFollow regs (produces regs step) next := by
  cases stepped with
  | inject => exact .single (outputFull_or_one regs.status) rfl
  | command commanded => exact flagsFollow_commanded commanded
  | param route =>
      rw [produces_data, route]
      exact .same ⟨rfl, rfl, rfl⟩
  | kbdParam route =>
      rw [produces_data, route]
      exact flagsFollow_acknowledge
  | kbdCommand route commanded =>
      rw [produces_data, route]
      exact flagsFollow_kbdCommanded commanded

theorem SameFlags.outputFull_iff (same : SameFlags regs next) :
    next.outputFull ↔ regs.outputFull := by
  simp only [KbdRegs.outputFull, same.status]

/-! ## The joint invariant -/

theorem Joint.of_same (joint : Joint regs) (same : SameFlags regs next) :
    Joint next where
  irq := by
    rw [same.irq, same.outputFull_iff]
    exact joint.irq
  full := by
    rw [same.index, same.outputFull_iff]
    exact joint.full
  low := same.index ▸ joint.low
  high := same.index ▸ joint.high
  two := by
    rw [same.index, same.outputFull_iff]
    exact joint.two

theorem Joint.of_filled (filled : Filled next) : Joint next where
  irq := fun _ => filled.full
  full := fun _ => filled.low
  low := by
    have low := filled.low
    omega
  high := filled.high
  two := fun _ => filled.full

theorem joint_of_follow {bytes : List Uint8} (joint : Joint regs)
    (follow : FlagsFollow regs bytes next) : Joint next := by
  rcases follow with ⟨-, same⟩ | ⟨-, filled⟩
  · exact joint.of_same same
  · exact .of_filled filled

theorem not_outputFull_emptied (regs : KbdRegs) :
    ¬ regs.emptied.outputFull :=
  not_outputFull_and_not_one regs.status

theorem joint_emptied (last : regs.ndxOutput = 0) :
    Joint regs.emptied := by
  have empty := not_outputFull_emptied regs
  have index : regs.emptied.ndxOutput = -1 := by
    rw [KbdRegs.emptied, last]
    rfl
  refine ⟨fun raised => ?_, fun full => absurd full empty, by omega,
    by omega, fun one => by omega⟩
  cases raised

/-- More than one byte is waiting only behind a restart, which sets OBF. -/
theorem Joint.outputFull_of_more (joint : Joint regs)
    (more : 0 < regs.ndxOutput) : regs.outputFull := by
  have high := joint.high
  exact joint.two (by omega)

theorem Joint.advanced (joint : Joint regs)
    (more : 0 < regs.ndxOutput) : Joint regs.advanced := by
  have high := joint.high
  have index : regs.advanced.ndxOutput = regs.ndxOutput - 1 := rfl
  have full : regs.advanced.outputFull := joint.outputFull_of_more more
  exact ⟨fun _ => full, fun _ => by omega, by omega, by omega,
    fun _ => full⟩

theorem Joint.stepped (joint : Joint regs)
    (stepped : Stepped regs step response next) : Joint next := by
  cases response with
  | none => exact joint_of_follow joint (flagsFollow_stepped stepped)
  | some val =>
      cases stepped with
      | status => exact joint
      | nothing => exact joint
      | last index => exact joint_emptied index
      | more index => exact joint.advanced index

theorem Counts.commanded (counts : Counts regs)
    (commanded : Commanded regs cmd next) : Counts next := by
  cases commanded with
  | readByte => exact ⟨Or.inr rfl, counts.kbdparams⟩
  | expects => exact ⟨Or.inr rfl, counts.kbdparams⟩
  | answers => exact ⟨counts.cmdparams, counts.kbdparams⟩
  | silent => exact counts

theorem Counts.kbdCommanded (counts : Counts regs)
    (commanded : KbdCommanded regs cmd next) : Counts next := by
  cases commanded with
  | silent => exact counts
  | leds => exact ⟨counts.cmdparams, Or.inr rfl⟩
  | scancode => exact ⟨counts.cmdparams, Or.inr rfl⟩
  | acknowledges => exact ⟨counts.cmdparams, counts.kbdparams⟩
  | restarts => exact ⟨counts.cmdparams, counts.kbdparams⟩

theorem Counts.cmdparams_of_route (counts : Counts regs)
    (route : regs.route = .param) : regs.cmdparamsLeft = 1 := by
  rcases counts.cmdparams with none | one
  · simp only [KbdRegs.route, none] at route
    by_cases expected : 0 < regs.kbdparamsLeft
    · rw [if_neg (by decide), if_pos expected] at route
      cases route
    · rw [if_neg (by decide), if_neg expected] at route
      cases route
  · exact one

theorem Counts.kbdparams_of_route (counts : Counts regs)
    (route : regs.route = .kbdParam) : regs.kbdparamsLeft = 1 := by
  rcases counts.kbdparams with none | one
  · simp only [KbdRegs.route, none] at route
    by_cases expected : 0 < regs.cmdparamsLeft
    · rw [if_pos expected] at route
      cases route
    · rw [if_neg expected, if_neg (by decide)] at route
      cases route
  · exact one

theorem Counts.stepped (counts : Counts regs)
    (stepped : Stepped regs step response next) : Counts next := by
  cases stepped with
  | inject => exact ⟨counts.cmdparams, counts.kbdparams⟩
  | command commanded => exact counts.commanded commanded
  | param route =>
      have one := counts.cmdparams_of_route route
      refine ⟨Or.inl ?_, counts.kbdparams⟩
      rw [KbdRegs.received, one]
      rfl
  | kbdParam route =>
      have one := counts.kbdparams_of_route route
      refine ⟨counts.cmdparams, Or.inl ?_⟩
      rw [KbdRegs.acknowledge, KbdRegs.receivedKbd, one]
      rfl
  | kbdCommand _ commanded => exact counts.kbdCommanded commanded
  | status => exact counts
  | nothing => exact counts
  | last => exact ⟨counts.cmdparams, counts.kbdparams⟩
  | more => exact ⟨counts.cmdparams, counts.kbdparams⟩

/-! ## Inside the buffers -/

theorem defined_handleCommand : Outcome.Defined (handleCommand regs cmd) := by
  simp only [handleCommand]
  repeat'
    first
      | exact Outcome.defined_ok
      | exact Outcome.defined_abort
      | refine Outcome.defined_ite (fun _ => ?_) (fun _ => ?_)

theorem defined_handleKbdCommand :
    Outcome.Defined (handleKbdCommand regs cmd) := by
  simp only [handleKbdCommand]
  repeat'
    first
      | exact Outcome.defined_ok
      | exact Outcome.defined_abort
      | refine Outcome.defined_ite (fun _ => ?_) (fun _ => ?_)

theorem defined_handleCommandWithparams (pParams : Vector Uint8 8) :
    Outcome.Defined (handleCommandWithparams regs cmd pParams) := by
  simp only [handleCommandWithparams]
  repeat'
    first
      | exact Outcome.defined_ok
      | exact Outcome.defined_abort
      | refine Outcome.defined_ite (fun _ => ?_) (fun _ => ?_)

theorem defined_handleKbdCommandWithparams :
    Outcome.Defined (handleKbdCommandWithparams regs cmd) := by
  simp only [handleKbdCommandWithparams]
  repeat'
    first
      | exact Outcome.defined_ok
      | exact Outcome.defined_abort
      | refine Outcome.defined_ite (fun _ => ?_) (fun _ => ?_)

/-- The one parameter that is expected has a place. -/
theorem defined_store_param {left : Int} (count : left = 0 ∨ left = 1)
    (expected : 0 < left) (params : Vector Uint8 8) (val : Uint8) :
    Outcome.Defined (store params (left - 1) val) := by
  intro fault
  exact store_eq_fault_iff.mp fault ⟨by omega, by omega⟩

theorem defined_kbdOutb (counts : Counts regs) (port : Uint16)
    (val : Uint8) : Outcome.Defined (kbdOutb regs port val) := by
  simp only [kbdOutb]
  refine Outcome.defined_ite (fun _ => defined_handleCommand) fun _ => ?_
  refine Outcome.defined_ite (fun expected => ?_) fun _ => ?_
  · refine Outcome.defined_bind
      (defined_store_param counts.cmdparams expected.2 _ _)
      fun params _ => ?_
    exact Outcome.defined_ite
      (fun _ => defined_handleCommandWithparams params)
      fun _ => Outcome.defined_ok
  refine Outcome.defined_ite (fun expected => ?_) fun _ => ?_
  · refine Outcome.defined_bind
      (defined_store_param counts.kbdparams expected.2 _ _)
      fun params _ => ?_
    exact Outcome.defined_ite
      (fun _ => defined_handleKbdCommandWithparams)
      fun _ => Outcome.defined_ok
  exact Outcome.defined_ite (fun _ => defined_handleKbdCommand)
    fun _ => Outcome.defined_abort

theorem defined_kbdInb (joint : Joint regs) (port : Uint16) :
    Outcome.Defined (kbdInb regs port) := by
  have high := joint.high
  simp only [kbdInb]
  refine Outcome.defined_ite (fun _ => Outcome.defined_ok) fun _ => ?_
  refine Outcome.defined_ite (fun _ => ?_) fun _ => Outcome.defined_abort
  refine Outcome.defined_ite (fun _ => Outcome.defined_ok)
    fun inside => ?_
  refine Outcome.defined_bind ?_ fun ret _ => ?_
  · intro fault
    exact load_eq_fault_iff.mp fault ⟨by omega, by omega⟩
  · exact Outcome.defined_ite (fun _ => Outcome.defined_ok)
      fun _ => Outcome.defined_ok

/-- No step uses an index outside its buffer. -/
theorem defined_kbdStep (joint : Joint regs) (counts : Counts regs)
    (step : KbdStep) : Outcome.Defined (kbdStep regs step) := by
  cases step with
  | inject sc bIsPressed => exact Outcome.defined_ok
  | outb port val =>
      exact Outcome.defined_bind (defined_kbdOutb counts port val)
        fun _ _ => Outcome.defined_ok
  | inb port =>
      exact Outcome.defined_bind (defined_kbdInb joint port)
        fun _ _ => Outcome.defined_ok

/-! ## Runs -/

/-- The invariant of the controller. -/
def Invariant (regs : KbdRegs) : Prop :=
  Joint regs ∧ Counts regs

theorem invariant_init : Invariant x86KeyboardInit :=
  ⟨⟨nofun, fun _ => by decide, by decide, by decide, nofun⟩,
    Or.inl rfl, Or.inl rfl⟩

theorem Counts.stepped_of_kbdStep (counts : Counts regs)
    (called : kbdStep regs step = .ok (response, next)) :
    Stepped regs step response next := by
  have cmdparams := counts.cmdparams
  have kbdparams := counts.kbdparams
  exact Keyboard.stepped_of_kbdStep (by omega) (by omega) called

theorem invariant_kbdStep (invariant : Invariant regs)
    (called : kbdStep regs step = .ok (response, next)) :
    Invariant next := by
  have stepped := invariant.2.stepped_of_kbdStep called
  exact ⟨invariant.1.stepped stepped, invariant.2.stepped stepped⟩

theorem Invariant.sound (invariant : Invariant regs) : Sound regs where
  irq := fun raised =>
    ⟨invariant.1.irq raised, invariant.1.full (invariant.1.irq raised)⟩
  index := ⟨invariant.1.low, invariant.1.high⟩
  cmdparams := invariant.2.cmdparams
  kbdparams := invariant.2.kbdparams

/-- One step makes the flag agree, or leaves the flag and the index alone. -/
theorem flagAgrees_kbdStep (invariant : Invariant regs)
    (called : kbdStep regs step = .ok (response, next)) :
    FlagAgrees next ↔ Settles regs step ∨ FlagAgrees regs := by
  have stepped := invariant.2.stepped_of_kbdStep called
  cases response with
  | none =>
      rcases flagsFollow_stepped stepped with
        ⟨silent, same⟩ | ⟨some, filled⟩
      · have unsettled : ¬ Settles regs step := by
          rintro (some | rfl)
          · exact some silent
          · cases stepped
        rw [FlagAgrees, same.outputFull_iff, same.index]
        exact (or_iff_right unsettled).symm
      · exact iff_of_true
          (iff_of_true filled.full filled.low) (Or.inl (Or.inl some))
  | some val =>
      cases stepped with
      | status =>
          have unsettled : ¬ Settles regs (.inb 0x64) := by
            rintro (some | other)
            · exact some rfl
            · exact absurd other (by decide)
          exact (or_iff_right unsettled).symm
      | nothing below =>
          refine iff_of_true ?_ (Or.inl (Or.inr rfl))
          refine iff_of_false (fun full => ?_) (by omega)
          have low := invariant.1.full full
          omega
      | last index =>
          refine iff_of_true ?_ (Or.inl (Or.inr rfl))
          refine iff_of_false (not_outputFull_emptied regs) ?_
          simp only [KbdRegs.emptied]
          omega
      | more index =>
          refine iff_of_true ?_ (Or.inl (Or.inr rfl))
          refine iff_of_true (invariant.1.outputFull_of_more index) ?_
          simp only [KbdRegs.advanced]
          omega

end Steps

/-- In every state that a run reaches, OBF tells whether bytes remain exactly
if a byte was produced or the data port was read before. -/
theorem flagAgrees_iff_settled {steps : List KbdStep}
    {responses : List KbdResponse} {regs : KbdRegs}
    (ran : run kbdStep x86KeyboardInit steps = .ok (responses, regs)) :
    FlagAgrees regs ↔ Happened kbdStep Settles x86KeyboardInit steps := by
  have not_yet : ¬ FlagAgrees x86KeyboardInit := by
    decide
  exact happened_iff invariant_kbdStep flagAgrees_kbdStep invariant_init
    not_yet ran

/-- A key is pressed. -/
theorem flagAgrees_iff_settled_inject :
    FlagAgrees (kbdInject x86KeyboardInit 0x1E true) ↔
      Happened kbdStep Settles x86KeyboardInit [.inject 0x1E true] :=
  flagAgrees_iff_settled
    (rfl : run kbdStep x86KeyboardInit [.inject 0x1E true] =
      .ok ([none], kbdInject x86KeyboardInit 0x1E true))

/-- The registers that the initialization leaves disagree. -/
theorem not_always_flagAgrees :
    ¬ ∀ (steps : List KbdStep) (responses : List KbdResponse)
        (regs : KbdRegs),
      run kbdStep x86KeyboardInit steps = .ok (responses, regs) →
        FlagAgrees regs := by
  intro always
  have agrees := always [] [] x86KeyboardInit rfl
  exact absurd (agrees.mpr (Int.le_refl 0)) (by decide)

/-- In every run IRQ 1 is high only while a byte is waiting, and no index
leaves its buffer. -/
theorem sound_throughout (steps : List KbdStep) :
    Throughout kbdStep Sound x86KeyboardInit steps ∧
      StepsMeet kbdStep
        (fun regs step => kbdStep regs step ≠ .error .fault)
        x86KeyboardInit steps := by
  refine ⟨throughout_of_invariant invariant_kbdStep Invariant.sound
    invariant_init, ?_⟩
  exact stepsMeet_of_invariant (fun _ => True) invariant_kbdStep
    (fun invariant _ => defined_kbdStep invariant.1 invariant.2 _)
    invariant_init (fun _ _ => trivial)

end Kvmulate.Keyboard
