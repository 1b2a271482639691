import Kvmulate.Devices.Alone
import Kvmulate.Keyboard.Typing
import Kvmulate.Lib.Interleave

/-!
# From the keys of the viewer to the guest

The viewer thread injects the keys that are typed while the guest runs.  A
guest that reads the data port gets keys that were typed, in their order, and
it gets all of them exactly when it reads between one key and the next.
-/

namespace Kvmulate.Devices

open DeviceLib Kvmulate.Io Kvmulate.Vga

/-- The steps of the viewer thread for the events that it polls. -/
def viewerSteps (events : List SdlEvent) : List DeviceStep :=
  events.filterMap fun event =>
    (injected event).map fun call => .key call.1 call.2

/-- Steps of a guest that writes nothing to the keyboard controller. -/
def Listens : DeviceStep → Prop
  | .key _ _ => False
  | .port _ (.outb port _) => servedBy port ≠ some 8
  | _ => True

/-- What the data port of the keyboard answers. -/
def dataAnswer : DeviceStep → VideoResponse → Option Uint8
  | .port _ (.inb port), .data (.byte val) =>
      if port = 0x60 then some val else none
  | _, _ => none

def dataAnswers : List DeviceStep → List VideoResponse → List Uint8
  | step :: steps, response :: delivered =>
      (dataAnswer step response).toList ++ dataAnswers steps delivered
  | _, _ => []

/-- What a step does at the place for keys. -/
def keyMail (step : DeviceStep) : Option (MailStep KeyEvent) :=
  (kbdAlone.takes step).bind Keyboard.mail

/-- The key of a step of the viewer. -/
def typedKey : DeviceStep → Option KeyEvent
  | .key sc bIsPressed => keyOfByte (scanByte sc bIsPressed)
  | _ => none

/-- The guest reads the data port between one key and the next. -/
def ReadsBetween (steps : List DeviceStep) : Prop :=
  NeverReplaces none (steps.filterMap keyMail)

/-- A key of the table, or a guest that only reads. -/
def Types (step : DeviceStep) : Prop :=
  ∀ own, kbdAlone.takes step = some own → Keyboard.Types own

section Steps

variable {machine next final : Machine} {step : DeviceStep}
variable {steps : List DeviceStep} {response : VideoResponse}
variable {delivered : List VideoResponse} {waiting : Option KeyEvent}

theorem kbdAlone_takes_inb (host : Host) (port : Uint16) :
    kbdAlone.takes (.port host (.inb port)) =
      if servedBy port = some 8 then some (.inb port) else none := rfl

theorem kbdAlone_takes_outb (host : Host) (port : Uint16) (val : Uint8) :
    kbdAlone.takes (.port host (.outb port val)) =
      if servedBy port = some 8 then some (.outb port val) else none := rfl

theorem types_of_listens (listens : Listens step) : Types step := by
  intro own taken
  cases step with
  | key => exact absurd listens id
  | port host access =>
      cases access with
      | outb port val =>
          obtain ⟨served, -⟩ := Option.ite_none_right_eq_some.mp taken
          exact absurd served listens
      | inb port =>
          obtain ⟨-, same⟩ := Option.ite_none_right_eq_some.mp taken
          cases same
          exact trivial
      | outw => cases taken
      | outl => cases taken
      | inw => cases taken
      | inl => cases taken
  | write => cases taken
  | read => cases taken
  | ram => cases taken

theorem types_of_viewer {events : List SdlEvent}
    (mem : step ∈ viewerSteps events) : Types step := by
  obtain ⟨event, -, calls⟩ := List.mem_filterMap.mp mem
  obtain ⟨⟨sc, bIsPressed⟩, called, rfl⟩ := Option.map_eq_some_iff.mp calls
  obtain ⟨key, -, known⟩ := keyOfByte_of_injected called
  intro own taken
  cases taken
  exact Option.ne_none_iff_exists'.mpr ⟨key, known⟩

theorem dataAnswer_of_taken {own : Keyboard.KbdStep}
    (taken : kbdAlone.takes step = some own)
    (answer : Keyboard.KbdResponse) :
    dataAnswer step (kbdAlone.shows answer) =
      Keyboard.dataByte own answer := by
  cases step with
  | key =>
      cases taken
      rfl
  | port host access =>
      cases access with
      | outb port val =>
          obtain ⟨-, same⟩ := Option.ite_none_right_eq_some.mp taken
          cases same
          rfl
      | inb port =>
          obtain ⟨-, same⟩ := Option.ite_none_right_eq_some.mp taken
          cases same
          cases answer with
          | none => rfl
          | some val => rfl
      | outw => cases taken
      | outl => cases taken
      | inw => cases taken
      | inl => cases taken
  | write => cases taken
  | read => cases taken
  | ram => cases taken

theorem dataAnswer_of_apart (apart : kbdAlone.takes step = none)
    (response : VideoResponse) : dataAnswer step response = none := by
  have keyboard : servedBy 0x60 = some 8 := by
    decide
  cases step with
  | port host access =>
      cases access with
      | inb port =>
          cases response with
          | data data =>
              cases data with
              | byte val =>
                  refine if_neg fun same => ?_
                  subst same
                  rw [kbdAlone_takes_inb, if_pos keyboard] at apart
                  cases apart
              | none => rfl
              | word => rfl
              | long => rfl
          | mmio => rfl
      | outb => rfl
      | outw => rfl
      | outl => rfl
      | inw => rfl
      | inl => rfl
  | key => rfl
  | write => rfl
  | read => rfl
  | ram => rfl

/-- A step of the machine at the place for keys. -/
theorem waits_deviceStep (waits : Keyboard.Waits machine.kbd waiting)
    (types : Types step)
    (stepped : deviceStep machine step = .ok (response, next)) :
    Keyboard.Waits next.kbd (mailLeft waiting (keyMail step).toList) ∧
      Keyboard.Spells (dataAnswer step response).toList
        (mailTaken waiting (keyMail step).toList) := by
  cases taken : kbdAlone.takes step with
  | none =>
      have kept : next.kbd = machine.kbd := kbdAlone.spares taken stepped
      have apart : keyMail step = none :=
        congrArg (Option.bind · Keyboard.mail) taken
      rw [kept, apart, dataAnswer_of_apart taken]
      exact ⟨waits, rfl⟩
  | some own =>
      obtain ⟨answer, after, served, rfl, rfl⟩ :=
        (Component.serves_eq_ok_iff taken).mp stepped
      have same : keyMail step = Keyboard.mail own :=
        congrArg (Option.bind · Keyboard.mail) taken
      rw [same, dataAnswer_of_taken taken]
      exact Keyboard.waits_kbdStep waits (types own taken) served

/-- The keys that the guest reads are those that it takes. -/
theorem waits_run (waits : Keyboard.Waits machine.kbd waiting)
    (types : ∀ step ∈ steps, Types step)
    (ran : run deviceStep machine steps = .ok (delivered, final)) :
    Keyboard.Waits final.kbd (mailLeft waiting (steps.filterMap keyMail)) ∧
      Keyboard.Spells (dataAnswers steps delivered)
        (mailTaken waiting (steps.filterMap keyMail)) := by
  induction steps generalizing machine delivered waiting with
  | nil =>
      cases ran
      exact ⟨waits, rfl⟩
  | cons step rest inductionHypothesis =>
      obtain ⟨response, next, others, stepped, ranRest, rfl⟩ :=
        run_cons_eq_ok_iff.mp ran
      obtain ⟨left, first⟩ :=
        waits_deviceStep waits (types step List.mem_cons_self) stepped
      obtain ⟨lastly, later⟩ := inductionHypothesis left
        (fun other mem => types other (List.mem_cons_of_mem step mem))
        ranRest
      have split : (step :: rest).filterMap keyMail =
          (keyMail step).toList ++ rest.filterMap keyMail := by
        cases own : keyMail step with
        | none => exact List.filterMap_cons_none own
        | some mail => exact List.filterMap_cons_some own
      rw [split, mailLeft_append, mailTaken_append]
      exact ⟨lastly, Keyboard.spells_append first later⟩

theorem mailPut_keyMail (step : DeviceStep) :
    mailPut (keyMail step).toList = (typedKey step).toList := by
  cases step with
  | key sc bIsPressed =>
      have own : keyMail (.key sc bIsPressed) =
          (keyOfByte (scanByte sc bIsPressed)).map .put := rfl
      rw [own, typedKey]
      cases keyOfByte (scanByte sc bIsPressed) with
      | none => rfl
      | some key => rfl
  | port host access =>
      cases access with
      | outb port val =>
          by_cases served : servedBy port = some 8
          · rw [keyMail, kbdAlone_takes_outb, if_pos served]
            rfl
          · rw [keyMail, kbdAlone_takes_outb, if_neg served]
            rfl
      | inb port =>
          by_cases served : servedBy port = some 8
          · rw [keyMail, kbdAlone_takes_inb, if_pos served, Option.bind_some,
              Keyboard.mail]
            by_cases data : port = 0x60
            · rw [if_pos data]
              rfl
            · rw [if_neg data]
              rfl
          · rw [keyMail, kbdAlone_takes_inb, if_neg served]
            rfl
      | outw => rfl
      | outl => rfl
      | inw => rfl
      | inl => rfl
  | write => rfl
  | read => rfl
  | ram => rfl

/-- The keys of the viewer's steps are those of its events. -/
theorem typedKey_viewerSteps (events : List SdlEvent) :
    (viewerSteps events).filterMap typedKey =
      events.filterMap keyEvent := by
  rw [viewerSteps, List.filterMap_filterMap]
  refine List.filterMap_congr fun event _ => ?_
  cases calls : injected event with
  | none =>
      rw [keyEvent_of_not_injected calls]
      rfl
  | some call =>
      obtain ⟨key, event, known⟩ := keyOfByte_of_injected calls
      rw [event]
      exact known

theorem typedKey_of_listens (listens : Listens step) :
    typedKey step = none := by
  cases step with
  | key => exact absurd listens id
  | port => rfl
  | write => rfl
  | read => rfl
  | ram => rfl

theorem reads_deviceStep (reads : Keyboard.Reads machine.kbd)
    (stepped : deviceStep machine step = .ok (response, next)) :
    Keyboard.Reads next.kbd :=
  @Component.preserves _ _ _ _ _ _ _ _ kbdAlone _ _ _ _ Keyboard.Reads
    (fun reads called => Keyboard.reads_kbdStep reads called) reads stepped

theorem reads_start {around : Surroundings}
    (start : Machine.start around = .ok machine) :
    Keyboard.Reads machine.kbd := by
  rw [(started_of_start start).kbd]
  exact Keyboard.reads_init

end Steps

/-- The guest reads keys that are typed while it runs, whatever else it does,
and IRQ 1 is raised while one is waiting. -/
theorem typed_keys_read {around : Surroundings}
    {machine ready final : Machine} {before guest steps : List DeviceStep}
    {delivered delivering : List VideoResponse} {events : List SdlEvent}
    (start : Machine.start around = .ok machine)
    (ranBefore : run deviceStep machine before = .ok (delivering, ready))
    (clear : ¬ ready.kbd.outputFull)
    (listens : ∀ step ∈ guest, Listens step)
    (merged : Interleaves (viewerSteps events) guest steps)
    (ran : run deviceStep ready steps = .ok (delivered, final)) :
    ∃ (keys : List KeyEvent) (waiting : Option KeyEvent),
      Keyboard.Spells (dataAnswers steps delivered) keys ∧
        (keys ++ waiting.toList).Sublist (events.filterMap keyEvent) ∧
        (keys ++ waiting.toList = events.filterMap keyEvent ↔
          ReadsBetween steps) ∧
        (final.kbd.outputFull ↔ waiting.isSome = true) ∧
        final.kbd.irq1 = waiting.isSome := by
  have reads : Keyboard.Reads ready.kbd :=
    run_invariant reads_deviceStep (reads_start start) ranBefore
  have types : ∀ step ∈ steps, Types step := by
    intro step mem
    rcases merged.mem mem with viewer | mine
    · exact types_of_viewer viewer
    · exact types_of_listens (listens step mine)
  obtain ⟨waits, spells⟩ :=
    waits_run (Keyboard.waits_of_reads reads clear) types ran
  have typed : mailPut (steps.filterMap keyMail) =
      events.filterMap keyEvent := by
    rw [mailPut_filterMap mailPut_keyMail,
      merged.filterMap_left fun step mem =>
        typedKey_of_listens (listens step mem),
      typedKey_viewerSteps]
  have order := mailTaken_sublist none (steps.filterMap keyMail)
  have all := mailTaken_eq_iff none (steps.filterMap keyMail)
  rw [Option.toList_none, List.nil_append, typed] at order all
  exact ⟨_, _, spells, order, all, waits.flags.1, waits.flags.2⟩

/-- A key is pressed, and the guest reads it. -/
theorem typed_keys_read_key :
    ∃ machine final : Machine, Machine.start bare = .ok machine ∧
      ∃ (keys : List KeyEvent) (waiting : Option KeyEvent),
        Keyboard.Spells [0x1E] keys ∧
          (keys ++ waiting.toList).Sublist [(.sdlkA, true)] ∧
          (keys ++ waiting.toList = [(.sdlkA, true)] ↔
            ReadsBetween
              [.key 0x1E true, .port Host.atNoon (.inb 0x60)]) ∧
          (final.kbd.outputFull ↔ waiting.isSome = true) ∧
          final.kbd.irq1 = waiting.isSome := by
  obtain ⟨machine, start⟩ := exists_start_bare
  have kbd := (started_of_start start).kbd
  have pressed : deviceStep machine (.key 0x1E true) =
      .ok (.data .none,
        { machine with
          kbd := Keyboard.kbdInject Keyboard.x86KeyboardInit 0x1E true }) := by
    rw [← kbd]
    rfl
  have read := @kbd_serves
    { machine with
      kbd := Keyboard.kbdInject Keyboard.x86KeyboardInit 0x1E true }
    (.port Host.atNoon (.inb 0x60)) (.inb 0x60) rfl
  have nothing : run deviceStep machine [] = .ok ([], machine) := rfl
  have clear : ¬ machine.kbd.outputFull := by
    rw [kbd]
    decide
  have listens : ∀ step ∈ [DeviceStep.port Host.atNoon (.inb 0x60)],
      Listens step := by
    intro step mem
    rw [List.mem_singleton.mp mem]
    exact trivial
  have merged : Interleaves (viewerSteps [.keydown .sdlkA, .other])
      [DeviceStep.port Host.atNoon (.inb 0x60)]
      [.key 0x1E true, .port Host.atNoon (.inb 0x60)] :=
    .left (.right .nil)
  exact ⟨machine, _, start,
    typed_keys_read start nothing clear listens merged
      (run_cons pressed (run_one read))⟩

end Kvmulate.Devices
