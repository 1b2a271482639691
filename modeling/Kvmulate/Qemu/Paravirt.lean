import Kvmulate.Types
import Kvmulate.Lib.Bytes
import Kvmulate.Lib.Indexed
import Kvmulate.Lib.Run

/-!
# The paravirtual configuration interface

The port handlers of `devices/x86/qemu_paravirt.c`.  The argument `port` is
the distance from port 0x510.
-/

namespace Kvmulate.Qemu

open DeviceLib

/-! ## The E820 table -/

structure E820Entry where
  addr : Uint64
  length : Uint64
  type : Uint32
deriving DecidableEq, Repr

structure E820Table where
  entries : Uint32
  entry : List E820Entry
deriving DecidableEq, Repr

def e820Ram : Uint32 := 1
def e820Reserved : Uint32 := 2

def e820Table : E820Table where
  entries := 3
  entry :=
    [⟨0x0, 0xA0000, e820Ram⟩,
      ⟨0x100000, 0xE0000000 - 0x100000, e820Ram⟩,
      ⟨0xFFFBC000, 0x100000000 - 0xFFFBC000, e820Reserved⟩]

/-- The packed structures in memory. -/
def E820Entry.bytes (entry : E820Entry) : List Uint8 :=
  leBytes 8 entry.addr ++ leBytes 8 entry.length ++ leBytes 4 entry.type

def E820Table.bytes (table : E820Table) : List Uint8 :=
  leBytes 4 table.entries ++ table.entry.flatMap E820Entry.bytes

/-! ## The port handlers -/

def bufferSize : Nat := 1024

/-- `ctx_t`; `off` and `buff` are the fields of `ret`. -/
structure Ctx where
  reg : Uint16
  off : Int
  buff : Vector Uint8 bufferSize

/-- The static `ctx`, which the initialization does not write to. -/
def Ctx.cleared : Ctx where
  reg := 0
  off := 0
  buff := Vector.replicate bufferSize 0

def qemuparaInb (ctx : Ctx) : Outcome (Uint8 × Ctx) := do
  Outcome.assert (ctx.off < bufferSize)
  let r ← load ctx.buff ctx.off
  pure (r, { ctx with off := ctx.off + 1 })

/-- Store bytes at the start of the buffer. -/
def Ctx.fill (ctx : Ctx) (bytes : List Uint8) : Outcome Ctx := do
  let buff ← storeList ctx.buff 0 bytes
  pure { ctx with buff := buff }

/-- The branches of `qemupara_outw`. -/
def select (ctx : Ctx) (val : Uint16) : Outcome Ctx :=
  if val = 0x00 then
    { ctx with off := 0 }.fill [0x51, 0x45, 0x4D, 0x55]
  else if val = 0xD then ctx.fill (leBytes 4 (1 : Uint32))
  else if val = 0xE then { ctx with off := 0 }.fill [0, 1]
  else if val = 0x8000 then pure { ctx with off := 0 }
  else if val = 0x8003 then { ctx with off := 0 }.fill e820Table.bytes
  else if val = 0x19 then
    { ctx with off := 0 }.fill (leBytes 4 (0 : Uint32))
  else if val = 0x0F then
    { ctx with off := 0 }.fill (leBytes 4 (32 : Uint32))
  else if val = 0x8001 then
    { ctx with off := 0 }.fill (leBytes 2 (0 : Uint16))
  else if val = 0x8002 then
    { ctx with off := 0 }.fill (leBytes 1 (0 : Uint8))
  else .error .abort

def qemuparaOutw (ctx : Ctx) (port val : Uint16) : Outcome Ctx :=
  if port = 0x00 then select { ctx with reg := val } val
  else .error .abort

/-- The accesses of the guest. -/
inductive ParaStep where
  | inb (port : Uint16)
  | inw (port : Uint16)
  | inl (port : Uint16)
  | outb (port : Uint16) (val : Uint8)
  | outw (port val : Uint16)
  | outl (port : Uint16) (val : Uint32)
deriving DecidableEq

/-- The word and dword reads, the byte and dword writes are not
implemented. -/
def paraStep : Call Ctx ParaStep (Option Uint8)
  | ctx, .inb _ => do
      let (val, next) ← qemuparaInb ctx
      pure (some val, next)
  | ctx, .outw port val => do
      let next ← qemuparaOutw ctx port val
      pure (none, next)
  | _, .inw _ => .error .abort
  | _, .inl _ => .error .abort
  | _, .outb _ _ => .error .abort
  | _, .outl _ _ => .error .abort

/-! ## The items -/

/-- The bytes behind a key. -/
def item (key : Uint16) : Option (List Uint8) :=
  if key = 0x00 then some [0x51, 0x45, 0x4D, 0x55]
  else if key = 0xD then some [1, 0, 0, 0]
  else if key = 0xE then some [0, 1]
  else if key = 0x8000 then some []
  else if key = 0x8003 then some e820Table.bytes
  else if key = 0x19 then some [0, 0, 0, 0]
  else if key = 0x0F then some [32, 0, 0, 0]
  else if key = 0x8001 then some [0, 0]
  else if key = 0x8002 then some [0]
  else none

/-- The key whose selection does not reset the offset. -/
def numaKey : Uint16 := 0xD

section Access

variable {ctx next final : Ctx} {key : Uint16} {bytes : List Uint8}
variable {val : Uint8}

/-- The keys have a branch each. -/
theorem key_cases (motive : Uint16 → Prop) (name : motive 0x00)
    (numa : motive 0xD) (menu : motive 0xE) (acpi : motive 0x8000)
    (e820 : motive 0x8003) (file : motive 0x19) (cpus : motive 0x0F)
    (smbios : motive 0x8001) (irq0 : motive 0x8002)
    (other : ∀ key, item key = none →
      (∀ ctx, select ctx key = .error .abort) → motive key)
    (key : Uint16) : motive key := by
  by_cases isName : key = 0x00
  · exact isName ▸ name
  by_cases isNuma : key = 0xD
  · exact isNuma ▸ numa
  by_cases isMenu : key = 0xE
  · exact isMenu ▸ menu
  by_cases isAcpi : key = 0x8000
  · exact isAcpi ▸ acpi
  by_cases isE820 : key = 0x8003
  · exact isE820 ▸ e820
  by_cases isFile : key = 0x19
  · exact isFile ▸ file
  by_cases isCpus : key = 0x0F
  · exact isCpus ▸ cpus
  by_cases isSmbios : key = 0x8001
  · exact isSmbios ▸ smbios
  by_cases isIrq0 : key = 0x8002
  · exact isIrq0 ▸ irq0
  · refine other key ?_ fun ctx => ?_
    · unfold item
      rw [if_neg isName, if_neg isNuma, if_neg isMenu, if_neg isAcpi,
        if_neg isE820, if_neg isFile, if_neg isCpus, if_neg isSmbios,
        if_neg isIrq0]
    · unfold select
      rw [if_neg isName, if_neg isNuma, if_neg isMenu, if_neg isAcpi,
        if_neg isE820, if_neg isFile, if_neg isCpus, if_neg isSmbios,
        if_neg isIrq0]

theorem item_length (found : item key = some bytes) :
    bytes.length ≤ bufferSize := by
  have every : ∀ found ∈ item key, found.length ≤ bufferSize := by
    refine key_cases (fun key =>
      ∀ found ∈ item key, found.length ≤ bufferSize)
      (by decide) (by decide) (by decide) (by decide) (by decide)
      (by decide) (by decide) (by decide) (by decide) ?_ key
    intro key none _ found isItem
    rw [none] at isItem
    cases isItem
  exact every bytes found

/-- Every branch stores an item, and all but one reset the offset. -/
theorem select_eq (ctx : Ctx) (key : Uint16) :
    select ctx key =
      (item key).elim (.error .abort)
        (if key = numaKey then ctx else { ctx with off := 0 }).fill := by
  refine key_cases (fun key => select ctx key =
    (item key).elim (.error .abort)
      (if key = numaKey then ctx else { ctx with off := 0 }).fill)
    rfl rfl rfl rfl rfl rfl rfl rfl rfl ?_ key
  intro key none aborts
  rw [none, aborts]
  rfl

/-- An item that fits replaces the first bytes of the buffer. -/
theorem exists_fill (ctx : Ctx) (fits : bytes.length ≤ bufferSize) :
    ∃ buff, ctx.fill bytes = .ok { ctx with buff := buff } ∧
      buff.toList = bytes ++ ctx.buff.toList.drop bytes.length := by
  obtain ⟨buff, stored⟩ :=
    @exists_storeList_of_le _ _ ctx.buff 0 bytes (by omega)
  refine ⟨buff, ?_, ?_⟩
  · unfold Ctx.fill
    rw [stored]
    rfl
  · have list := toList_of_storeList stored
    rw [Nat.zero_add] at list
    exact list

/-- A read delivers the byte at the offset. -/
theorem inb_of_lt {offset : Nat} (at' : ctx.off = offset)
    (below : offset < bufferSize) :
    qemuparaInb ctx =
      .ok (ctx.buff.toList.getD offset 0,
        { ctx with off := ctx.off + 1 }) := by
  have first :
      (ctx.buff.toList.drop offset).take 1 =
        [ctx.buff.toList.getD offset 0] := by
    have bound : offset < ctx.buff.toList.length := by
      rw [Vector.length_toList]
      exact below
    rw [List.drop_eq_getElem_cons bound, List.take_succ_cons,
      List.take_zero, List.getD_eq_getElem _ _ bound]
  have inside : ctx.off < (bufferSize : Int) := by
    rw [at']
    exact Int.ofNat_lt.mpr below
  have loaded := @load_of_drop _ _ ctx.buff offset _ [] first
  unfold qemuparaInb
  rw [Outcome.assert_of inside, Outcome.ok_bind, at', loaded]
  rfl

/-- Reads deliver the buffer from the offset on. -/
theorem run_inb {ports : List Uint16} {offset : Nat}
    (at' : ctx.off = offset)
    (inside : offset + ports.length ≤ bufferSize) :
    ∃ final, run paraStep ctx (ports.map .inb) =
      .ok ((window ctx.buff.toList offset ports.length).map some,
        final) := by
  induction ports generalizing ctx offset with
  | nil =>
      exact ⟨ctx, rfl⟩
  | cons port rest inductionHypothesis =>
      rw [List.length_cons] at inside
      have read := inb_of_lt at' (by omega : offset < bufferSize)
      have called :
          paraStep ctx (.inb port) =
            .ok (some (ctx.buff.toList.getD offset 0),
              { ctx with off := ctx.off + 1 }) := by
        change (qemuparaInb ctx >>= _) = _
        rw [read]
        rfl
      have after : ctx.off + 1 = ((offset + 1 : Nat) : Int) := by
        rw [at']
        rfl
      obtain ⟨final, ran⟩ :=
        @inductionHypothesis { ctx with off := ctx.off + 1 } (offset + 1)
          after (by omega)
      refine ⟨final, run_cons_eq_ok_iff.mpr ⟨_, _, _, called, ran, ?_⟩⟩
      rw [List.length_cons, Nat.add_comm rest.length, window_add]
      rfl

end Access

end Kvmulate.Qemu
