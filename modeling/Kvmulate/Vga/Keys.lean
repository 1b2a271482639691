import Kvmulate.Types

/-!
# The keys of the viewer

The table `kssc` of `vga/viewer.c`, and its scan codes read back.
-/

namespace Kvmulate.Vga

/-- The symbols of SDL that the viewer knows.  The others, 0 among them, are
`other`. -/
inductive SdlKey where
  | sdlk1 | sdlk2 | sdlk3 | sdlk4 | sdlk5
  | sdlk6 | sdlk7 | sdlk8 | sdlk9 | sdlk0
  | sdlkA | sdlkB | sdlkC | sdlkD | sdlkE | sdlkF | sdlkG
  | sdlkH | sdlkI | sdlkJ | sdlkK | sdlkL | sdlkM | sdlkN
  | sdlkO | sdlkP | sdlkQ | sdlkR | sdlkS | sdlkT | sdlkU
  | sdlkV | sdlkW | sdlkX | sdlkY | sdlkZ
  | sdlkF1 | sdlkF2 | sdlkF3 | sdlkF4 | sdlkF5 | sdlkF6
  | sdlkF7 | sdlkF8 | sdlkF9 | sdlkF10 | sdlkF11 | sdlkF12
  | sdlkReturn | sdlkSpace | sdlkLalt | sdlkLshift | sdlkLctrl
  | sdlkEscape | sdlkTab | sdlkBackspace
  | sdlkDown | sdlkUp | sdlkLeft | sdlkRight
  | sdlkComma | sdlkPeriod | sdlkSemicolon
  | other (sym : Nat)
deriving DecidableEq, Repr

open SdlKey in
/-- The table in front of its last entry, `{ 0,0 }`. -/
def kssc : List (SdlKey × Uint8) :=
  [(sdlk1, 0x02), (sdlk2, 0x03), (sdlk3, 0x04), (sdlk4, 0x05),
    (sdlk5, 0x06), (sdlk6, 0x07), (sdlk7, 0x08), (sdlk8, 0x09),
    (sdlk9, 0x0A), (sdlk0, 0x0B), (sdlkA, 0x1E), (sdlkB, 0x30),
    (sdlkC, 0x2E), (sdlkD, 0x20), (sdlkE, 0x12), (sdlkF, 0x21),
    (sdlkG, 0x22), (sdlkH, 0x23), (sdlkI, 0x17), (sdlkJ, 0x24),
    (sdlkK, 0x25), (sdlkL, 0x26), (sdlkM, 0x32), (sdlkN, 0x31),
    (sdlkO, 0x18), (sdlkP, 0x19), (sdlkQ, 0x10), (sdlkR, 0x13),
    (sdlkS, 0x1F), (sdlkT, 0x14), (sdlkU, 0x16), (sdlkV, 0x2F),
    (sdlkW, 0x11), (sdlkX, 0x2D), (sdlkY, 0x15), (sdlkZ, 0x2C),
    (sdlkF1, 0x3B), (sdlkF2, 0x3C), (sdlkF3, 0x3D), (sdlkF4, 0x3E),
    (sdlkF5, 0x3F), (sdlkF6, 0x40), (sdlkF7, 0x41), (sdlkF8, 0x42),
    (sdlkF9, 0x43), (sdlkF10, 0x44), (sdlkF11, 0x45), (sdlkF12, 0x46),
    (sdlkReturn, 0x1C), (sdlkSpace, 0x39), (sdlkLalt, 0x38),
    (sdlkLshift, 0x2A), (sdlkLctrl, 0x1D), (sdlkEscape, 0x01),
    (sdlkTab, 0x0F), (sdlkBackspace, 0x0E), (sdlkDown, 0x50),
    (sdlkUp, 0x48), (sdlkLeft, 0x4B), (sdlkRight, 0x4D),
    (sdlkComma, 0x33), (sdlkPeriod, 0x34), (sdlkSemicolon, 0x27)]

/-- The loop of `keysym_to_scancode`. -/
def scancodeIn : List (SdlKey × Uint8) → SdlKey → Option Uint8
  | [], _ => none
  | (key, sc) :: rest, sym =>
      if key = sym then some sc else scancodeIn rest sym

def keysymToScancode (sym : SdlKey) : Option Uint8 :=
  scancodeIn kssc sym

/-- What `SDL_PollEvent` reports. -/
inductive SdlEvent where
  | keydown (sym : SdlKey)
  | keyup (sym : SdlKey)
  | other
deriving DecidableEq, Repr

/-- The call of `kbd_inject` that the viewer makes for an event. -/
def injected : SdlEvent → Option (Uint8 × Bool)
  | .keydown sym => (keysymToScancode sym).map fun sc => (sc, true)
  | .keyup sym => (keysymToScancode sym).map fun sc => (sc, false)
  | .other => none

/-! ## Keys from scan codes -/

/-- A key, pressed or released. -/
abbrev KeyEvent := SdlKey × Bool

/-- The event that the table has a code for. -/
def keyEvent : SdlEvent → Option KeyEvent
  | .keydown sym => (keysymToScancode sym).map fun _ => (sym, true)
  | .keyup sym => (keysymToScancode sym).map fun _ => (sym, false)
  | .other => none

/-- The byte for a scan code, with bit 7 for a key that is released. -/
def scanByte (sc : Uint8) (bIsPressed : Bool) : Uint8 :=
  if bIsPressed then sc else sc ||| 0x80

/-- The key of a byte that the guest reads. -/
def keyOfByte (byte : Uint8) : Option KeyEvent :=
  (kssc.find? fun entry => entry.2 = byte &&& 0x7F).map fun entry =>
    (entry.1, decide (byte &&& 0x80 = 0))

theorem mem_kssc_of_scancodeIn {table : List (SdlKey × Uint8)}
    {sym : SdlKey} {sc : Uint8} (found : scancodeIn table sym = some sc) :
    (sym, sc) ∈ table := by
  induction table with
  | nil => cases found
  | cons entry rest inductionHypothesis =>
      obtain ⟨key, code⟩ := entry
      rw [scancodeIn] at found
      by_cases same : key = sym
      · rw [if_pos same] at found
        cases found
        rw [same]
        exact List.mem_cons_self
      · rw [if_neg same] at found
        exact List.mem_cons_of_mem _ (inductionHypothesis found)

/-- No two entries of the table share a byte, pressed or released. -/
theorem keyOfByte_of_mem_kssc :
    ∀ entry ∈ kssc, ∀ bIsPressed : Bool,
      keyOfByte (scanByte entry.2 bIsPressed) =
        some (entry.1, bIsPressed) := by
  decide

theorem keyOfByte_zero : keyOfByte 0 = none := by
  decide

/-- What the viewer injects is read back as the event. -/
theorem keyOfByte_of_injected {event : SdlEvent} {sc : Uint8}
    {bIsPressed : Bool} (calls : injected event = some (sc, bIsPressed)) :
    ∃ key, keyEvent event = some key ∧
      keyOfByte (scanByte sc bIsPressed) = some key := by
  cases event with
  | keydown sym =>
      obtain ⟨code, found, same⟩ := Option.map_eq_some_iff.mp calls
      cases same
      refine ⟨(sym, true), ?_, ?_⟩
      · rw [keyEvent, found]
        rfl
      · exact keyOfByte_of_mem_kssc _ (mem_kssc_of_scancodeIn found) true
  | keyup sym =>
      obtain ⟨code, found, same⟩ := Option.map_eq_some_iff.mp calls
      cases same
      refine ⟨(sym, false), ?_, ?_⟩
      · rw [keyEvent, found]
        rfl
      · exact keyOfByte_of_mem_kssc _ (mem_kssc_of_scancodeIn found) false
  | other => cases calls

theorem keyEvent_of_not_injected {event : SdlEvent}
    (silent : injected event = none) : keyEvent event = none := by
  cases event with
  | keydown sym =>
      rw [keyEvent, Option.map_eq_none_iff.mp silent]
      rfl
  | keyup sym =>
      rw [keyEvent, Option.map_eq_none_iff.mp silent]
      rfl
  | other => rfl

end Kvmulate.Vga
