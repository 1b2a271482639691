import Kvmulate.Keyboard.Flags

/-!
# Where a data byte goes

`Awaited` follows the protocol: which controller command and which keyboard
command still wait for their byte.  The controller agrees with it, except that
its command 0x20 also waits for a byte.
-/

namespace Kvmulate.Keyboard

open DeviceLib

/-! ## The protocol -/

def KbdTakesParam (cmd : Uint8) : Prop :=
  cmd = 0xED ∨ cmd = 0xF0

instance (cmd : Uint8) : Decidable (KbdTakesParam cmd) :=
  inferInstanceAs (Decidable (_ ∨ _))

/-- The commands without a parameter that the controller answers or
ignores. -/
def Parameterless (cmd : Uint8) : Prop :=
  cmd = 0x20 ∨ cmd = 0xA9 ∨ cmd = 0xAA ∨ cmd = 0xAB ∨ cmd = 0xAD ∨
    cmd = 0xAE

/-- The commands that have not received their byte. -/
structure Awaited where
  param : Option Uint8
  kbdParam : Option Uint8
deriving DecidableEq, Repr

namespace Awaited

def nothing : Awaited := ⟨none, none⟩

/-- Where the next byte belongs. -/
def route (awaited : Awaited) : Route :=
  if awaited.param.isSome then .param
  else if awaited.kbdParam.isSome then .kbdParam
  else .kbdCommand

def after (awaited : Awaited) : KbdStep → Awaited
  | .outb port val =>
      if port = 0x64 then
        if TakesParam val then { awaited with param := some val }
        else awaited
      else if port = 0x60 then
        match awaited.route with
        | .param => { awaited with param := none }
        | .kbdParam => { awaited with kbdParam := none }
        | .kbdCommand =>
            if KbdTakesParam val then { awaited with kbdParam := some val }
            else awaited
      else awaited
  | _ => awaited

end Awaited

abbrev kbdAwaited : Call (KbdRegs × Awaited) KbdStep KbdResponse :=
  observed kbdStep fun _ step _ awaited => awaited.after step

/-! ## The controller -/

def ReadsCommandByte (_ : KbdRegs) (step : KbdStep) : Prop :=
  step = .outb 0x64 0x20

def GivesParamCommand (_ : KbdRegs) (step : KbdStep) : Prop :=
  ∃ cmd, TakesParam cmd ∧ step = .outb 0x64 cmd

/-- The command is served and the next byte goes where it went before. -/
def KeepsRoute (regs : KbdRegs) (cmd : Uint8) : Prop :=
  ∃ next, kbdStep regs (.outb 0x64 cmd) = .ok (none, next) ∧
    next.route = regs.route

/-- The controller waits for a byte of the command 0x20. -/
def Stray (regs : KbdRegs) : Prop :=
  regs.cmdparamsLeft = 1 ∧ regs.cmdparamsCmd = 0x20

/-- The route is the branch that `kbd_outb` takes. -/
theorem kbdOutb_data (regs : KbdRegs) (val : Uint8) :
    kbdOutb regs 0x60 val =
      match regs.route with
      | .param => do
          let cmdparams ← store regs.cmdparams (regs.cmdparamsLeft - 1) val
          let left := regs.cmdparamsLeft - 1
          let next :=
            { regs with cmdparams := cmdparams, cmdparamsLeft := left }
          if left ≤ 0 then
            handleCommandWithparams next regs.cmdparamsCmd cmdparams
          else pure next
      | .kbdParam => do
          let kbdparams ← store regs.kbdparams (regs.kbdparamsLeft - 1) val
          let left := regs.kbdparamsLeft - 1
          let next :=
            { regs with kbdparams := kbdparams, kbdparamsLeft := left }
          if left ≤ 0 then
            handleKbdCommandWithparams next regs.kbdparamsCmd
          else pure next
      | .kbdCommand => handleKbdCommand regs val := by
  rw [kbdOutb, if_neg (by decide : ¬ (0x60 : Uint16) = 0x64),
    KbdRegs.route]
  by_cases expected : 0 < regs.cmdparamsLeft
  · rw [if_pos ⟨rfl, expected⟩, if_pos expected]
  rw [if_neg fun both => expected both.2, if_neg expected]
  by_cases expectedKbd : 0 < regs.kbdparamsLeft
  · rw [if_pos ⟨rfl, expectedKbd⟩, if_pos expectedKbd]
  · rw [if_neg fun both => expectedKbd both.2, if_neg expectedKbd,
      if_pos rfl]

/-- The counters and the commands of the controller are those that the
protocol waits for, but for the command 0x20. -/
structure Follows (regs : KbdRegs) (awaited : Awaited) : Prop where
  counts : Counts regs
  param : ∀ cmd, awaited.param = some cmd →
    TakesParam cmd ∧ regs.cmdparamsLeft = 1 ∧
      (regs.cmdparamsCmd = cmd ∨ regs.cmdparamsCmd = 0x20)
  noParam : awaited.param = none →
    regs.cmdparamsLeft = 0 ∨ regs.cmdparamsCmd = 0x20
  kbdParam : ∀ cmd, awaited.kbdParam = some cmd →
    regs.kbdparamsLeft = 1 ∧ regs.kbdparamsCmd = cmd
  noKbdParam : awaited.kbdParam = none → regs.kbdparamsLeft = 0

section Steps

variable {regs next : KbdRegs} {awaited : Awaited} {cmd : Uint8}
variable {step : KbdStep} {response : KbdResponse}

/-- Nothing that the routing depends on changes. -/
structure SameRoute (regs next : KbdRegs) : Prop where
  cmdparamsLeft : next.cmdparamsLeft = regs.cmdparamsLeft
  cmdparamsCmd : next.cmdparamsCmd = regs.cmdparamsCmd
  kbdparamsLeft : next.kbdparamsLeft = regs.kbdparamsLeft
  kbdparamsCmd : next.kbdparamsCmd = regs.kbdparamsCmd

theorem SameRoute.route (same : SameRoute regs next) :
    next.route = regs.route := by
  rw [KbdRegs.route, KbdRegs.route, same.cmdparamsLeft,
    same.kbdparamsLeft]

theorem Follows.of_same (follows : Follows regs awaited)
    (same : SameRoute regs next) : Follows next awaited where
  counts :=
    ⟨same.cmdparamsLeft ▸ follows.counts.cmdparams,
      same.kbdparamsLeft ▸ follows.counts.kbdparams⟩
  param := by
    rw [same.cmdparamsLeft, same.cmdparamsCmd]
    exact follows.param
  noParam := by
    rw [same.cmdparamsLeft, same.cmdparamsCmd]
    exact follows.noParam
  kbdParam := by
    rw [same.kbdparamsLeft, same.kbdparamsCmd]
    exact follows.kbdParam
  noKbdParam := by
    rw [same.kbdparamsLeft]
    exact follows.noKbdParam

theorem route_of_param (one : regs.cmdparamsLeft = 1) :
    regs.route = .param := by
  rw [KbdRegs.route, one]
  rfl

theorem Awaited.route_of_param (expected : awaited.param = some cmd) :
    awaited.route = .param := by
  rw [Awaited.route, expected]
  rfl

theorem Awaited.route_of_none (none : awaited.param = none) :
    awaited.route =
      if awaited.kbdParam.isSome then .kbdParam else .kbdCommand := by
  rw [Awaited.route, none]
  rfl

/-- Without a parameter in the way, both look at the keyboard. -/
theorem Follows.route_of_none (follows : Follows regs awaited)
    (none : awaited.param = none) (zero : regs.cmdparamsLeft = 0) :
    regs.route = awaited.route := by
  rw [Awaited.route_of_none none, KbdRegs.route, zero,
    if_neg (by decide)]
  cases expected : awaited.kbdParam with
  | none =>
      rw [follows.noKbdParam expected]
      rfl
  | some cmd =>
      rw [(follows.kbdParam cmd expected).1]
      rfl

/-- The route differs from that of the protocol exactly where the command 0x20
waits alone. -/
theorem Follows.route_iff (follows : Follows regs awaited) :
    regs.route = awaited.route ↔
      ¬ (Stray regs ∧ awaited.param = none) := by
  cases expected : awaited.param with
  | some cmd =>
      have one := (follows.param cmd expected).2.1
      refine iff_of_true ?_ (fun both => nomatch both.2)
      rw [route_of_param one, Awaited.route_of_param expected]
  | none =>
      rcases follows.counts.cmdparams with zero | one
      · refine iff_of_true (follows.route_of_none expected zero) ?_
        rintro ⟨stray, -⟩
        have one := stray.1
        omega
      · have other : ¬ Route.param = awaited.route := by
          rw [Awaited.route_of_none expected]
          by_cases kbd : awaited.kbdParam.isSome
          · rw [if_pos kbd]
            nofun
          · rw [if_neg kbd]
            nofun
        have stray : regs.cmdparamsCmd = 0x20 := by
          rcases follows.noParam expected with zero | readByte
          · omega
          · exact readByte
        rw [route_of_param one]
        exact iff_of_false other
          (not_not_intro ⟨⟨one, stray⟩, rfl⟩)

theorem TakesParam.ne (takes : TakesParam cmd) : cmd ≠ 0x20 := by
  rcases takes with rfl | rfl | rfl | rfl
  all_goals decide

/-- A parameter that the controller takes was awaited. -/
theorem Follows.route_of_takesParam (follows : Follows regs awaited)
    (takes : TakesParam regs.cmdparamsCmd) :
    regs.route = awaited.route :=
  follows.route_iff.mpr fun both => takes.ne both.1.2

theorem Follows.route_of_ne (follows : Follows regs awaited)
    (other : regs.route ≠ .param) : regs.route = awaited.route :=
  follows.route_iff.mpr fun both => other (route_of_param both.1.1)

theorem Awaited.after_command (awaited : Awaited) (cmd : Uint8) :
    awaited.after (.outb 0x64 cmd) =
      if TakesParam cmd then { awaited with param := some cmd }
      else awaited := by
  rw [Awaited.after, if_pos rfl]

theorem Awaited.after_data (awaited : Awaited) (val : Uint8) :
    awaited.after (.outb 0x60 val) =
      match awaited.route with
      | .param => { awaited with param := none }
      | .kbdParam => { awaited with kbdParam := none }
      | .kbdCommand =>
          if KbdTakesParam val then { awaited with kbdParam := some val }
          else awaited := by
  rw [Awaited.after, if_neg (by decide : ¬ (0x60 : Uint16) = 0x64),
    if_pos rfl]

/-! ## One step -/

theorem Follows.commanded (follows : Follows regs awaited)
    (commanded : Commanded regs cmd next) :
    Follows next (awaited.after (.outb 0x64 cmd)) := by
  rw [Awaited.after_command]
  have counts := follows.counts.commanded commanded
  cases commanded with
  | readByte =>
      rw [if_neg (by decide)]
      exact ⟨counts,
        fun cmd expected =>
          ⟨(follows.param cmd expected).1, rfl, Or.inr rfl⟩,
        fun _ => Or.inr rfl, follows.kbdParam, follows.noKbdParam⟩
  | expects takes =>
      rw [if_pos takes]
      refine ⟨counts, fun given expected => ?_, nofun, follows.kbdParam,
        follows.noKbdParam⟩
      cases expected
      exact ⟨takes, rfl, Or.inl rfl⟩
  | answers known =>
      have other : ¬ TakesParam cmd := by
        rcases known with ⟨rfl, -⟩ | ⟨rfl, -⟩ | ⟨rfl, -⟩
        all_goals decide
      rw [if_neg other]
      exact follows.of_same ⟨rfl, rfl, rfl, rfl⟩
  | silent known =>
      have other : ¬ TakesParam cmd := by
        rcases known with rfl | rfl | rfl
        all_goals decide
      rw [if_neg other]
      exact follows

theorem Follows.kbdCommanded (follows : Follows regs awaited)
    (route : awaited.route = .kbdCommand)
    (commanded : KbdCommanded regs cmd next) :
    Follows next (awaited.after (.outb 0x60 cmd)) := by
  rw [Awaited.after_data, route]
  have counts := follows.counts.kbdCommanded commanded
  have waits : ∀ {given : Uint8}, next.kbdparamsLeft = 1 →
      next.kbdparamsCmd = given →
        ∀ cmd, some given = some cmd →
          next.kbdparamsLeft = 1 ∧ next.kbdparamsCmd = cmd := by
    intro given one last cmd same
    cases same
    exact ⟨one, last⟩
  cases commanded with
  | silent =>
      exact follows
  | leds =>
      exact ⟨counts, follows.param, follows.noParam, waits rfl rfl, nofun⟩
  | scancode =>
      exact ⟨counts, follows.param, follows.noParam, waits rfl rfl, nofun⟩
  | acknowledges known =>
      have other : ¬ KbdTakesParam cmd := by
        rcases known with rfl | rfl | rfl
        all_goals decide
      simp only [if_neg other]
      exact follows.of_same ⟨rfl, rfl, rfl, rfl⟩
  | restarts => exact follows.of_same ⟨rfl, rfl, rfl, rfl⟩

theorem Follows.received (follows : Follows regs awaited)
    (route : regs.route = .param) (takes : TakesParam regs.cmdparamsCmd)
    (params : Vector Uint8 8) (val : Uint8) :
    Follows (regs.received params) (awaited.after (.outb 0x60 val)) := by
  have one := follows.counts.cmdparams_of_route route
  have zero : (regs.received params).cmdparamsLeft = 0 := by
    rw [KbdRegs.received, one]
    rfl
  have expected := follows.route_of_takesParam takes
  rw [route] at expected
  rw [Awaited.after_data, ← expected]
  refine ⟨⟨Or.inl zero, follows.counts.kbdparams⟩, ?_,
    fun _ => Or.inl zero, follows.kbdParam, follows.noKbdParam⟩
  intro given expected
  cases expected

theorem Follows.receivedKbd (follows : Follows regs awaited)
    (route : regs.route = .kbdParam) (params : Vector Uint8 8)
    (val : Uint8) :
    Follows (regs.receivedKbd params).acknowledge
      (awaited.after (.outb 0x60 val)) := by
  have one := follows.counts.kbdparams_of_route route
  have zero : (regs.receivedKbd params).acknowledge.kbdparamsLeft = 0 := by
    rw [KbdRegs.acknowledge, KbdRegs.receivedKbd, one]
    rfl
  have expected := follows.route_of_ne (by rw [route]; decide)
  rw [route] at expected
  rw [Awaited.after_data, ← expected]
  refine ⟨⟨follows.counts.cmdparams, Or.inl zero⟩, follows.param,
    follows.noParam, ?_, fun _ => zero⟩
  intro given expected
  cases expected

theorem Follows.stepped (follows : Follows regs awaited)
    (stepped : Stepped regs step response next) :
    Follows next (awaited.after step) := by
  cases stepped with
  | inject => exact follows.of_same ⟨rfl, rfl, rfl, rfl⟩
  | command commanded => exact follows.commanded commanded
  | param route takes => exact follows.received route takes _ _
  | kbdParam route => exact follows.receivedKbd route _ _
  | kbdCommand route commanded =>
      have expected := follows.route_of_ne (by rw [route]; decide)
      rw [route] at expected
      exact follows.kbdCommanded expected.symm commanded
  | status => exact follows
  | nothing => exact follows
  | last => exact follows.of_same ⟨rfl, rfl, rfl, rfl⟩
  | more => exact follows.of_same ⟨rfl, rfl, rfl, rfl⟩

/-! ## The command 0x20 -/

/-- How a step changes whether the command 0x20 waits. -/
def StrayFollows (regs : KbdRegs) (step : KbdStep) (next : KbdRegs) :
    Prop :=
  Stray next ↔
    ReadsCommandByte regs step ∨ Stray regs ∧ ¬ GivesParamCommand regs step

theorem strayFollows_of_other (unread : ¬ ReadsCommandByte regs step)
    (ungiven : ¬ GivesParamCommand regs step)
    (same : Stray next ↔ Stray regs) : StrayFollows regs step next := by
  rw [StrayFollows, same]
  exact (or_iff_right unread).trans (and_iff_left ungiven) |>.symm

/-- A step that is no command to the controller. -/
theorem strayFollows_of_noCommand (other : ∀ cmd, step ≠ .outb 0x64 cmd)
    (same : Stray next ↔ Stray regs) : StrayFollows regs step next := by
  refine strayFollows_of_other (other 0x20) ?_ same
  rintro ⟨given, -, command⟩
  exact other given command

theorem strayFollows_of_command (other : cmd ≠ 0x20)
    (paramless : ¬ TakesParam cmd) (same : Stray next ↔ Stray regs) :
    StrayFollows regs (.outb 0x64 cmd) next := by
  refine strayFollows_of_other (fun reads => ?_) ?_ same
  · cases reads
    exact other rfl
  · rintro ⟨given, takes, step⟩
    cases step
    exact paramless takes

theorem strayFollows_of_data {val : Uint8} (same : Stray next ↔ Stray regs) :
    StrayFollows regs (.outb 0x60 val) next := by
  have otherPort : ¬ (0x60 : Uint16) = 0x64 := by decide
  refine strayFollows_of_other (fun reads => ?_) ?_ same
  · exact otherPort (KbdStep.outb.inj reads).1
  · rintro ⟨given, -, step⟩
    exact otherPort (KbdStep.outb.inj step).1

theorem strayFollows_commanded (commanded : Commanded regs cmd next) :
    StrayFollows regs (.outb 0x64 cmd) next := by
  cases commanded with
  | readByte => exact iff_of_true ⟨rfl, rfl⟩ (Or.inl rfl)
  | expects takes =>
      refine iff_of_false (fun stray => takes.ne stray.2) ?_
      rintro (reads | ⟨-, ungiven⟩)
      · cases reads
        exact takes.ne rfl
      · exact ungiven ⟨cmd, takes, rfl⟩
  | answers known =>
      rcases known with ⟨rfl, -⟩ | ⟨rfl, -⟩ | ⟨rfl, -⟩
      all_goals
        exact strayFollows_of_command (by decide) (by decide) Iff.rfl
  | silent known =>
      rcases known with rfl | rfl | rfl
      all_goals
        exact strayFollows_of_command (by decide) (by decide) Iff.rfl

theorem strayFollows_stepped (counts : Counts regs)
    (stepped : Stepped regs step response next) :
    StrayFollows regs step next := by
  cases stepped with
  | inject => exact strayFollows_of_noCommand (by simp) Iff.rfl
  | command commanded => exact strayFollows_commanded commanded
  | param route takes =>
      have one := counts.cmdparams_of_route route
      refine strayFollows_of_data (iff_of_false (fun stray => ?_)
        fun stray => takes.ne stray.2)
      have still := stray.1
      simp only [KbdRegs.received] at still
      omega
  | kbdParam => exact strayFollows_of_data Iff.rfl
  | kbdCommand _ commanded =>
      refine strayFollows_of_data ?_
      cases commanded with
      | silent => exact Iff.rfl
      | leds => exact Iff.rfl
      | scancode => exact Iff.rfl
      | acknowledges => exact Iff.rfl
      | restarts => exact Iff.rfl
  | status => exact strayFollows_of_noCommand (by simp) Iff.rfl
  | nothing => exact strayFollows_of_noCommand (by simp) Iff.rfl
  | last => exact strayFollows_of_noCommand (by simp) Iff.rfl
  | more => exact strayFollows_of_noCommand (by simp) Iff.rfl

/-- A command without a parameter keeps the route, but 0x20 makes the
controller wait. -/
theorem keepsRoute_iff (regs : KbdRegs) (paramless : Parameterless cmd) :
    KeepsRoute regs cmd ↔ cmd ≠ 0x20 ∨ regs.route = .param := by
  rcases paramless with rfl | rfl | rfl | rfl | rfl | rfl
  · have called :
        kbdStep regs (.outb 0x64 0x20) =
          .ok (none,
            (regs.output regs.commandByte).expectParam 0x20) := rfl
    have waits :
        ((regs.output regs.commandByte).expectParam 0x20).route =
          .param := rfl
    constructor
    · rintro ⟨next, served, same⟩
      rw [called] at served
      cases served
      exact Or.inr (same.symm.trans waits)
    · rintro (other | route)
      · exact absurd rfl other
      · exact ⟨_, called, waits.trans route.symm⟩
  all_goals exact iff_of_true ⟨_, rfl, rfl⟩ (Or.inl (by decide))

/-! ## The command byte -/

theorem kbdStep_writeByte (regs : KbdRegs) (val : Uint8) :
    ∃ next,
      run kbdStep regs [.outb 0x64 0x60, .outb 0x60 val] =
          .ok ([none, none], next) ∧
        next.commandByte = val := by
  have inside : Indexes 8 ((1 : Int) - 1) := by decide
  have stored := @store_of_indexes _ _ regs.cmdparams _ val inside
  have written :
      kbdStep (regs.expectParam 0x60) (.outb 0x60 val) =
        .ok (none,
          { regs.expectParam 0x60 with
            cmdparams := regs.cmdparams.setIfInBounds 0 val
            cmdparamsLeft := 0
            commandByte := (regs.cmdparams.setIfInBounds 0 val)[0] }) := by
    rw [kbdStep, kbdOutb_data, route_of_param rfl]
    simp only [KbdRegs.expectParam, stored, Outcome.ok_bind]
    rfl
  exact ⟨_, run_cons rfl (run_one written),
    Vector.getElem_setIfInBounds_self (by decide)⟩

/-- The last byte of the output buffer is read. -/
theorem kbdStep_last {val : Uint8} (last : regs.ndxOutput = 0)
    (loaded : load regs.bufOutput 0 = .ok val) :
    kbdStep regs (.inb 0x60) = .ok (some val, regs.emptied) := by
  have notBelow : ¬ regs.ndxOutput < 0 := by omega
  rw [kbdStep, kbdInb, if_neg (by decide), if_pos rfl, if_neg notBelow]
  simp only [last, loaded, Outcome.ok_bind, KbdRegs.emptied]
  rfl

/-- What was written to the command byte is read back. -/
theorem kbdStep_readByte (regs : KbdRegs) :
    ∃ next,
      run kbdStep regs [.outb 0x64 0x20, .inb 0x60] =
        .ok ([none, some regs.commandByte], next) := by
  have loaded :
      load (regs.bufOutput.set 0 regs.commandByte) 0 =
        .ok regs.commandByte := by
    refine load_eq_ok_iff.mpr ?_
    rw [Vector.toList_set]
    exact List.getElem?_set_self (by simp)
  exact ⟨_, run_cons rfl (run_one (kbdStep_last rfl loaded))⟩

theorem run_commandByte (regs : KbdRegs) (val : Uint8) :
    ∃ next,
      run kbdStep regs
          [.outb 0x64 0x60, .outb 0x60 val, .outb 0x64 0x20, .inb 0x60] =
        .ok ([none, none, none, some val], next) := by
  obtain ⟨written, ranWrite, byte⟩ := kbdStep_writeByte regs val
  obtain ⟨last, ranRead⟩ := kbdStep_readByte written
  rw [byte] at ranRead
  exact ⟨last, run_append ranWrite ranRead⟩

end Steps

/-! ## Runs -/

/-- The registers of an observed state follow what was observed. -/
def FollowsState (state : KbdRegs × Awaited) : Prop :=
  Follows state.1 state.2

theorem follows_kbdAwaited {state next : KbdRegs × Awaited}
    {step : KbdStep} {response : KbdResponse}
    (follows : FollowsState state)
    (called : kbdAwaited state step = .ok (response, next)) :
    FollowsState next := by
  obtain ⟨regs, awaited⟩ := state
  obtain ⟨after, later⟩ := next
  obtain ⟨served, rfl⟩ := observed_eq_ok_iff.mp called
  exact follows.stepped (follows.counts.stepped_of_kbdStep served)

theorem follows_init :
    FollowsState (x86KeyboardInit, Awaited.nothing) where
  counts := invariant_init.2
  param := nofun
  noParam := fun _ => Or.inl rfl
  kbdParam := nofun
  noKbdParam := fun _ => rfl

theorem strayFollows_kbdStep {regs next : KbdRegs} {step : KbdStep}
    {response : KbdResponse} (invariant : Invariant regs)
    (called : kbdStep regs step = .ok (response, next)) :
    StrayFollows regs step next :=
  strayFollows_stepped invariant.2 (invariant.2.stepped_of_kbdStep called)

/-- The last of the commands that the controller expects a byte after was
0x20. -/
def LastReadsByte (steps : List KbdStep) : Prop :=
  Latched kbdStep ReadsCommandByte GivesParamCommand False x86KeyboardInit
    steps

theorem stray_iff_lastReadsByte {steps : List KbdStep}
    {responses : List KbdResponse} {regs : KbdRegs}
    (ran : run kbdStep x86KeyboardInit steps = .ok (responses, regs)) :
    Stray regs ↔ LastReadsByte steps := by
  have latched :=
    latched_iff invariant_kbdStep strayFollows_kbdStep invariant_init ran
  rw [latched]
  exact latched_congr (iff_of_false (fun stray => absurd stray.1 (by decide))
    not_false)

/-- In every state that a run reaches: a data byte goes where the protocol has
it unless the last command with a byte was 0x20 and no byte is due; a byte
that is due reaches its command unless the last one was 0x20; of the commands
without a parameter, 0x20 alone changes the route; and the command byte reads
back. -/
theorem routes_iff {steps : List KbdStep} {responses : List KbdResponse}
    {regs : KbdRegs} {awaited : Awaited}
    (ran : run kbdAwaited (x86KeyboardInit, Awaited.nothing) steps =
      .ok (responses, (regs, awaited))) :
    (regs.route = awaited.route ↔
        ¬ (LastReadsByte steps ∧ awaited.param = none)) ∧
      (∀ cmd, awaited.param = some cmd →
        (regs.cmdparamsCmd = cmd ↔ ¬ LastReadsByte steps)) ∧
      (∀ cmd, awaited.kbdParam = some cmd → regs.kbdparamsCmd = cmd) ∧
      (∀ cmd, Parameterless cmd →
        (KeepsRoute regs cmd ↔ cmd ≠ 0x20 ∨ regs.route = .param)) ∧
      ∀ val, ∃ next,
        run kbdStep regs
            [.outb 0x64 0x60, .outb 0x60 val, .outb 0x64 0x20,
              .inb 0x60] =
          .ok ([none, none, none, some val], next) := by
  have follows : Follows regs awaited :=
    run_invariant follows_kbdAwaited follows_init ran
  have stray := stray_iff_lastReadsByte (run_of_observed ran)
  refine ⟨?_, fun cmd expected => ?_,
    fun cmd expected => (follows.kbdParam cmd expected).2,
    fun cmd paramless => keepsRoute_iff regs paramless,
    run_commandByte regs⟩
  · rw [← stray]
    exact follows.route_iff
  · obtain ⟨takes, one, known⟩ := follows.param cmd expected
    rw [← stray, Stray]
    constructor
    · rintro rfl both
      exact takes.ne both.2
    · intro other
      rcases known with same | readByte
      · exact same
      · exact absurd ⟨one, readByte⟩ other

/-- The command byte is read and its parameter awaited. -/
theorem routes_iff_readByte :
    let regs :=
      (x86KeyboardInit.output 0).expectParam 0x20
    (regs.route = Awaited.nothing.route ↔
        ¬ (LastReadsByte [.outb 0x64 0x20] ∧
          Awaited.nothing.param = none)) ∧
      (∀ cmd, Awaited.nothing.param = some cmd →
        (regs.cmdparamsCmd = cmd ↔ ¬ LastReadsByte [.outb 0x64 0x20])) ∧
      (∀ cmd, Awaited.nothing.kbdParam = some cmd →
        regs.kbdparamsCmd = cmd) ∧
      (∀ cmd, Parameterless cmd →
        (KeepsRoute regs cmd ↔ cmd ≠ 0x20 ∨ regs.route = .param)) ∧
      ∀ val, ∃ next,
        run kbdStep regs
            [.outb 0x64 0x60, .outb 0x60 val, .outb 0x64 0x20,
              .inb 0x60] =
          .ok ([none, none, none, some val], next) :=
  routes_iff
    (rfl : run kbdAwaited (x86KeyboardInit, Awaited.nothing)
        [.outb 0x64 0x20] =
      .ok ([none], (_, Awaited.nothing)))

/-- After the command 0x20 the byte of a keyboard command is taken for a
parameter. -/
theorem not_always_routes :
    ¬ ∀ (steps : List KbdStep) (responses : List KbdResponse)
        (regs : KbdRegs) (awaited : Awaited),
      run kbdAwaited (x86KeyboardInit, Awaited.nothing) steps =
          .ok (responses, (regs, awaited)) →
        regs.route = awaited.route := by
  intro always
  have same := always [.outb 0x64 0x20] [none] _ Awaited.nothing rfl
  cases same

end Kvmulate.Keyboard
