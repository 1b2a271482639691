import Kvmulate.Keyboard.Flags
import Kvmulate.Lib.Mailbox
import Kvmulate.Vga.Keys

/-!
# Typing

To a guest that only reads, the controller is a place for one key.  OBF and
IRQ 1 say whether a key is waiting, and without one the data port answers 0.
-/

namespace Kvmulate.Keyboard

open DeviceLib Kvmulate.Vga

/-- What the data port answers without OBF is 0. -/
def Blank (regs : KbdRegs) : Prop :=
  regs.outputFull ∨ regs.ndxOutput < 0 ∨
    load regs.bufOutput regs.ndxOutput = .ok 0

/-- The key that is waiting, if there is one. -/
inductive Waits (regs : KbdRegs) : Option KeyEvent → Prop
  | key {byte : Uint8} {key : KeyEvent} :
      regs.outputFull → regs.irq1 = true → regs.ndxOutput = 0 →
      load regs.bufOutput regs.ndxOutput = .ok byte →
      keyOfByte byte = some key → Waits regs (some key)
  | empty :
      ¬ regs.outputFull → regs.irq1 = false → regs.ndxOutput ≤ 0 →
      (regs.ndxOutput < 0 ∨
        load regs.bufOutput regs.ndxOutput = .ok 0) →
      Waits regs none

/-- Steps of a viewer, and of a guest that writes nothing. -/
def Types : KbdStep → Prop
  | .inject sc bIsPressed => keyOfByte (scanByte sc bIsPressed) ≠ none
  | .outb _ _ => False
  | .inb _ => True

/-- What the step does at the place for keys. -/
def mail : KbdStep → Option (MailStep KeyEvent)
  | .inject sc bIsPressed =>
      (keyOfByte (scanByte sc bIsPressed)).map .put
  | .outb _ _ => none
  | .inb port => if port = 0x60 then some .take else none

/-- What the data port answers. -/
def dataByte : KbdStep → KbdResponse → Option Uint8
  | .inb port, some val => if port = 0x60 then some val else none
  | _, _ => none

/-- The bytes other than 0 are those of the keys. -/
def Spells (bytes : List Uint8) (keys : List KeyEvent) : Prop :=
  (bytes.filter (· ≠ 0)).map keyOfByte = keys.map some

theorem spells_append {bytes others : List Uint8}
    {keys further : List KeyEvent} (first : Spells bytes keys)
    (second : Spells others further) :
    Spells (bytes ++ others) (keys ++ further) := by
  unfold Spells at first second ⊢
  rw [List.filter_append, List.map_append, List.map_append, first, second]

theorem spells_zero : Spells [0] [] := rfl

theorem spells_byte {byte : Uint8} {key : KeyEvent}
    (known : keyOfByte byte = some key) : Spells [byte] [key] := by
  have nonzero : byte ≠ 0 := by
    intro zero
    rw [zero, keyOfByte_zero] at known
    cases known
  have kept : [byte].filter (· ≠ 0) = [byte] :=
    List.filter_cons_of_pos (decide_eq_true nonzero)
  rw [Spells, kept]
  exact congrArg (fun key => [key]) known

section Steps

variable {regs next : KbdRegs} {step : KbdStep} {response : KbdResponse}
variable {waiting : Option KeyEvent} {cmd : Uint8}

/-! ## Every reachable state -/

theorem blank_init : Blank x86KeyboardInit :=
  Or.inr (Or.inr rfl)

theorem Blank.of_same (blank : Blank regs)
    (status : next.status = regs.status)
    (buffer : next.bufOutput = regs.bufOutput)
    (index : next.ndxOutput = regs.ndxOutput) : Blank next := by
  unfold Blank KbdRegs.outputFull at blank ⊢
  rw [status, buffer, index]
  exact blank

theorem Blank.commanded (blank : Blank regs)
    (commanded : Commanded regs cmd next) : Blank next := by
  cases commanded with
  | readByte => exact Or.inl (outputFull_or_one regs.status)
  | expects => exact blank.of_same rfl rfl rfl
  | answers => exact Or.inl (outputFull_or_one regs.status)
  | silent => exact blank

theorem Blank.kbdCommanded (blank : Blank regs)
    (commanded : KbdCommanded regs cmd next) : Blank next := by
  cases commanded with
  | silent => exact blank
  | leds => exact blank.of_same rfl rfl rfl
  | scancode => exact Or.inl (by decide : (1 : Uint8) &&& 1 ≠ 0)
  | acknowledges => exact Or.inl (by decide : (1 : Uint8) &&& 1 ≠ 0)
  | restarts => exact Or.inl (by decide : (1 : Uint8) &&& 1 ≠ 0)

theorem Blank.stepped (blank : Blank regs) (joint : Joint regs)
    (stepped : Stepped regs step response next) : Blank next := by
  cases stepped with
  | inject => exact Or.inl (outputFull_or_one regs.status)
  | command commanded => exact blank.commanded commanded
  | param => exact blank.of_same rfl rfl rfl
  | kbdParam => exact Or.inl (by decide : (1 : Uint8) &&& 1 ≠ 0)
  | kbdCommand _ commanded => exact blank.kbdCommanded commanded
  | status => exact blank
  | nothing => exact blank
  | last index =>
      refine Or.inr (Or.inl ?_)
      have down : regs.emptied.ndxOutput = regs.ndxOutput - 1 := rfl
      omega
  | more index => exact Or.inl (joint.outputFull_of_more index)

/-- The invariant of the controller, with what it answers without OBF. -/
def Reads (regs : KbdRegs) : Prop :=
  Invariant regs ∧ Blank regs

theorem reads_init : Reads x86KeyboardInit :=
  ⟨invariant_init, blank_init⟩

theorem reads_kbdStep (reads : Reads regs)
    (called : kbdStep regs step = .ok (response, next)) : Reads next := by
  obtain ⟨invariant, blank⟩ := reads
  exact ⟨invariant_kbdStep invariant called,
    blank.stepped invariant.1 (invariant.2.stepped_of_kbdStep called)⟩

/-- Without OBF no key is waiting. -/
theorem waits_of_reads (reads : Reads regs) (clear : ¬ regs.outputFull) :
    Waits regs none := by
  obtain ⟨invariant, blank⟩ := reads
  have joint := invariant.1
  have lowered : regs.irq1 = false := by
    by_contra raised
    exact clear (joint.irq (Bool.eq_true_of_not_eq_false raised))
  have index : regs.ndxOutput ≤ 0 := by
    by_contra more
    exact clear (joint.outputFull_of_more (by omega))
  exact .empty clear lowered index (blank.resolve_left clear)

/-! ## One step -/

theorem waits_inject {sc : Uint8} {bIsPressed : Bool} {key : KeyEvent}
    (known : keyOfByte (scanByte sc bIsPressed) = some key) :
    Waits (kbdInject regs sc bIsPressed) (some key) := by
  refine .key (outputFull_or_one regs.status) rfl rfl ?_ known
  obtain ⟨first, rest, list⟩ :
      ∃ first rest, regs.bufOutput.toList = first :: rest :=
    List.exists_cons_of_length_pos (by simp)
  refine (@load_eq_ok_iff _ _ _ 0 _).mpr ?_
  simp only [kbdInject, KbdRegs.output, Vector.toList_set, list]
  rfl

/-- A read of the data port takes the key that is waiting. -/
theorem waits_kbdInb (waits : Waits regs waiting) {val : Uint8}
    (called : kbdInb regs 0x60 = .ok (val, next)) :
    Waits next none ∧ Spells [val] waiting.toList := by
  have emptied (index : regs.ndxOutput = 0) : Waits regs.emptied none := by
    have down : regs.emptied.ndxOutput = regs.ndxOutput - 1 := rfl
    exact .empty (not_outputFull_emptied regs) rfl (by omega)
      (Or.inl (by omega))
  have stepped := stepped_of_kbdInb called
  cases waits with
  | key full raised index loaded known =>
      cases stepped with
      | nothing below => omega
      | last _ found =>
          cases loaded.symm.trans found
          exact ⟨emptied index, spells_byte known⟩
      | more more => omega
  | empty clear lowered index blank =>
      cases stepped with
      | nothing => exact ⟨.empty clear lowered index blank, spells_zero⟩
      | last last found =>
          refine ⟨emptied last, ?_⟩
          rcases blank with below | loaded
          · omega
          · cases loaded.symm.trans found
            exact spells_zero
      | more more => omega

/-- What a step does at the place for keys, and what it answers. -/
theorem waits_kbdStep (waits : Waits regs waiting) (types : Types step)
    (called : kbdStep regs step = .ok (response, next)) :
    Waits next (mailLeft waiting (mail step).toList) ∧
      Spells (dataByte step response).toList
        (mailTaken waiting (mail step).toList) := by
  cases step with
  | inject sc bIsPressed =>
      cases called
      obtain ⟨key, known⟩ := Option.ne_none_iff_exists'.mp types
      have put : mail (.inject sc bIsPressed) = some (.put key) := by
        rw [mail, known]
        rfl
      rw [put]
      exact ⟨waits_inject known, rfl⟩
  | outb => exact absurd types id
  | inb port =>
      obtain ⟨⟨val, after⟩, read, done⟩ := Outcome.bind_eq_ok_iff.mp called
      cases done
      by_cases data : port = 0x60
      · subst data
        obtain ⟨left, spells⟩ := waits_kbdInb waits read
        refine ⟨left, ?_⟩
        have taken : mailTaken waiting (mail (.inb 0x60)).toList =
            waiting.toList := List.append_nil _
        rw [taken]
        exact spells
      · have apart : mail (.inb port) = none := if_neg data
        have unread : dataByte (.inb port) (some val) = none :=
          if_neg data
        rw [apart, unread]
        refine ⟨?_, rfl⟩
        cases stepped_of_kbdInb read with
        | status => exact waits
        | nothing => exact absurd rfl data
        | last => exact absurd rfl data
        | more => exact absurd rfl data

/-- OBF and IRQ 1 say whether a key is waiting. -/
theorem Waits.flags (waits : Waits regs waiting) :
    (regs.outputFull ↔ waiting.isSome = true) ∧
      regs.irq1 = waiting.isSome := by
  cases waits with
  | key full raised => exact ⟨iff_of_true full rfl, raised⟩
  | empty clear lowered =>
      exact ⟨iff_of_false clear Bool.false_ne_true, lowered⟩

end Steps

end Kvmulate.Keyboard
