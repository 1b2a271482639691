import Kvmulate.Vga.Registers

/-!
# The index registers of the VGA

Four of the index registers are cut to their arrays when they are written.  The
two addresses of the DAC are not: they run on with every data access, so the
palette is left by the access behind its last byte.
-/

namespace Kvmulate.Vga

open DeviceLib

/-! ## The use of the DAC -/

/-- For either direction, the palette byte that the guest addressed last, and
the data accesses since. -/
structure DacHistory where
  writeStart : Nat
  writes : Nat
  readStart : Nat
  reads : Nat

namespace DacHistory

def start : DacHistory := ⟨0, 0, 0, 0⟩

def after (history : DacHistory) : VgaAccess → DacHistory
  | .outb port val =>
      if port = 0x3C7 then
        { history with readStart := 3 * val.toNat, reads := 0 }
      else if port = 0x3C8 then
        { history with writeStart := 3 * val.toNat, writes := 0 }
      else if port = 0x3C9 then
        { history with writes := history.writes + 1 }
      else history
  | .inb port =>
      if port = 0x3C9 then { history with reads := history.reads + 1 }
      else history
  | _ => history

def observe (_ : VgaCtx) (guest : VgaAccess) (_ : VgaResponse)
    (history : DacHistory) : DacHistory :=
  history.after guest

/-- A data access of the DAC is one for the 768 bytes of the palette. -/
def Inside (history : DacHistory) : VgaAccess → Prop
  | .outb port _ =>
      port = 0x3C9 → history.writeStart + history.writes < 768
  | .inb port => port = 0x3C9 → history.readStart + history.reads < 768
  | _ => True

end DacHistory

/-! ## What holds of the indices -/

structure Bounded (ctx : VgaCtx) (history : DacHistory) : Prop where
  seqLow : -1 ≤ ctx.seqNdx
  seqHigh : ctx.seqNdx ≤ 4
  gcontLow : -1 ≤ ctx.gcontNdx
  gcontHigh : ctx.gcontNdx ≤ 8
  crtc : ctx.crtcNdx.toNat < 0x19
  write : ctx.pelWriteAddr.toNat = history.writeStart + history.writes
  writeBound : history.writeStart + history.writes ≤ 768
  read : ctx.pelReadAddr.toNat = history.readStart + history.reads
  readBound : history.readStart + history.reads ≤ 768

/-- No index differs. -/
structure SameIndices (ctx next : VgaCtx) : Prop where
  seq : next.seqNdx = ctx.seqNdx
  gcont : next.gcontNdx = ctx.gcontNdx
  crtc : next.crtcNdx = ctx.crtcNdx
  write : next.pelWriteAddr = ctx.pelWriteAddr
  read : next.pelReadAddr = ctx.pelReadAddr

theorem SameIndices.refl (ctx : VgaCtx) : SameIndices ctx ctx :=
  ⟨rfl, rfl, rfl, rfl, rfl⟩

section Handlers

variable {ctx : VgaCtx} {history : DacHistory}

theorem Bounded.of_same {next : VgaCtx} (bounded : Bounded ctx history)
    (same : SameIndices ctx next) : Bounded next history where
  seqLow := same.seq ▸ bounded.seqLow
  seqHigh := same.seq ▸ bounded.seqHigh
  gcontLow := same.gcont ▸ bounded.gcontLow
  gcontHigh := same.gcont ▸ bounded.gcontHigh
  crtc := same.crtc ▸ bounded.crtc
  write := same.write ▸ bounded.write
  writeBound := bounded.writeBound
  read := same.read ▸ bounded.read
  readBound := bounded.readBound

/-- A handler faults exactly outside of `inside`, and otherwise keeps the
bounds of the context in its result. -/
structure Serves {α : Type} (ctxOf : α → VgaCtx) (outcome : Outcome α)
    (inside : Prop) (later : DacHistory) : Prop where
  fault_iff : outcome = .error .fault ↔ ¬ inside
  bounded : ∀ result, outcome = .ok result → Bounded (ctxOf result) later

section Serves

variable {α β : Type} {ctxOf : α → VgaCtx}

theorem serves_ok {result : α} (bounded : Bounded (ctxOf result) history) :
    Serves ctxOf (.ok result) True history where
  fault_iff := by simp
  bounded := by
    intro other same
    cases same
    exact bounded

theorem serves_abort : Serves ctxOf (.error .abort) True history where
  fault_iff := by simp
  bounded := nofun

theorem serves_assert {condition : Prop} [Decidable condition]
    {outcome : Outcome α}
    (serves : condition → Serves ctxOf outcome True history) :
    Serves ctxOf (Outcome.assert condition >>= fun _ => outcome) True
      history := by
  by_cases holds : condition
  · rw [Outcome.assert_of holds]
    exact serves holds
  · rw [Outcome.assert_of_not holds]
    exact serves_abort

theorem serves_ite {condition : Prop} [Decidable condition]
    {first second : Outcome α} {inside : Prop}
    (yes : condition → Serves ctxOf first inside history)
    (no : ¬ condition → Serves ctxOf second inside history) :
    Serves ctxOf (if condition then first else second) inside
      history := by
  by_cases holds : condition
  · rw [if_pos holds]
    exact yes holds
  · rw [if_neg holds]
    exact no holds

theorem Serves.congr {outcome : Outcome α} {first second : Prop}
    (serves : Serves ctxOf outcome first history)
    (same : first ↔ second) : Serves ctxOf outcome second history where
  fault_iff := serves.fault_iff.trans (not_congr same)
  bounded := serves.bounded

/-- The result of a handler is passed on together with its context. -/
theorem Serves.map {outcome : Outcome α} {inside : Prop}
    {next : β → VgaCtx} {result : α → β}
    (serves : Serves ctxOf outcome inside history)
    (same : ∀ value, next (result value) = ctxOf value) :
    Serves next (outcome >>= fun value => .ok (result value)) inside
      history where
  fault_iff := Outcome.bind_ok_eq_error_iff.trans serves.fault_iff
  bounded := by
    intro other called
    obtain ⟨value, first, done⟩ := Outcome.bind_eq_ok_iff.mp called
    cases done
    rw [same]
    exact serves.bounded value first

/-- A handler that never faults, and another one behind it. -/
theorem Serves.bind {outcome : Outcome α} {next : α → Outcome β}
    {nextOf : β → VgaCtx} (serves : Serves ctxOf outcome True history)
    (rest : ∀ value, Bounded (ctxOf value) history →
      Serves nextOf (next value) True history) :
    Serves nextOf (outcome >>= next) True history := by
  cases first : outcome with
  | error stop =>
      cases stop with
      | abort => exact serves_abort
      | fault => exact absurd trivial (serves.fault_iff.mp first)
  | ok value => exact rest value (serves.bounded value first)

/-- A store to an indexed array serves exactly at its indices. -/
theorem serves_store {size : Nat} {array : Vector Uint8 size}
    {index : Int} {val : Uint8} {next : Vector Uint8 size → α}
    (bounded : Indexes size index →
      ∀ stored, Bounded (ctxOf (next stored)) history) :
    Serves ctxOf
      (store array index val >>= fun stored => .ok (next stored))
      (Indexes size index) history := by
  constructor
  · rw [Outcome.bind_ok_eq_error_iff, store_eq_fault_iff]
  · intro other called
    obtain ⟨stored, inside, same⟩ := Outcome.bind_eq_ok_iff.mp called
    cases same
    refine bounded ?_ stored
    by_contra outside
    rw [store_eq_fault_iff.mpr outside] at inside
    cases inside

theorem serves_load {size : Nat} {array : Vector Uint8 size}
    {index : Int} {result : Uint8 → α}
    (bounded : Indexes size index →
      ∀ val, Bounded (ctxOf (result val)) history) :
    Serves ctxOf (load array index >>= fun val => .ok (result val))
      (Indexes size index) history := by
  constructor
  · rw [Outcome.bind_ok_eq_error_iff, load_eq_fault_iff]
  · intro other called
    obtain ⟨val, inside, same⟩ := Outcome.bind_eq_ok_iff.mp called
    cases same
    refine bounded ?_ val
    by_contra outside
    rw [load_eq_fault_iff.mpr outside] at inside
    cases inside

end Serves

theorem serves_next {next : VgaCtx} (bounded : Bounded next history) :
    Serves id (.ok next) True history :=
  serves_ok bounded

/-- A handler that writes no index. -/
theorem serves_same {next : VgaCtx} (bounded : Bounded ctx history)
    (same : SameIndices ctx next) : Serves id (.ok next) True history :=
  serves_next (bounded.of_same same)

/-! ## Byte writes -/

theorem serves_sequencerWrite (bounded : Bounded ctx history)
    (val : Uint8) : Serves id (sequencerWrite ctx val) True history := by
  unfold sequencerWrite
  repeat' split
  all_goals
    first
    | exact serves_same bounded ⟨rfl, rfl, rfl, rfl, rfl⟩
    | exact serves_abort

theorem serves_graphicsControllerWrite (bounded : Bounded ctx history)
    (val : Uint8) :
    Serves id (graphicsControllerWrite ctx val) True history := by
  unfold graphicsControllerWrite
  split
  · rename_i some
    have low := bounded.gcontLow
    have high := bounded.gcontHigh
    have inside : Indexes 9 ctx.gcontNdx := ⟨by omega, by omega⟩
    refine (serves_store ?_).congr (iff_true_intro inside)
    intro _ stored
    exact bounded.of_same ⟨rfl, rfl, rfl, rfl, rfl⟩
  · exact serves_same bounded (.refl ctx)

theorem serves_crtcWrite (bounded : Bounded ctx history) (val : Uint8) :
    Serves id (crtcWrite ctx val) True history := by
  have small := bounded.crtc
  have inside : Indexes 0x19 ctx.crtcNdx.toNat := ⟨by omega, by omega⟩
  refine (serves_store ?_).congr (iff_true_intro inside)
  intro _ stored
  exact bounded.of_same ⟨rfl, rfl, rfl, rfl, rfl⟩

/-- The DAC address does not wrap inside the palette. -/
theorem toNat_dacNext (address : Uint16) (small : address.toNat < 768) :
    (address + 1).toNat = address.toNat + 1 := by
  have one : (1 : Uint16).toNat = 1 := rfl
  rw [BitVec.toNat_add, one]
  omega

theorem serves_paletteWrite (bounded : Bounded ctx history)
    (val : Uint8) :
    Serves id (paletteWrite ctx val)
      (history.writeStart + history.writes < 768)
      { history with writes := history.writes + 1 } := by
  have address := bounded.write
  refine (serves_store ?_).congr ?_
  · intro inside stored
    have upper := inside.2
    have next :
        (ctx.pelWriteAddr + 1).toNat =
          history.writeStart + (history.writes + 1) := by
      rw [toNat_dacNext _ (by omega), address, Nat.add_assoc]
    have bound : history.writeStart + (history.writes + 1) ≤ 768 := by
      omega
    exact { bounded with write := next, writeBound := bound }
  · unfold Indexes
    omega

theorem bounded_seqNdx (bounded : Bounded ctx history) (val : Uint8) :
    Bounded
      { ctx with seqNdx := if val.toNat ≤ 0x4 then val.toNat else -1 }
      history :=
  { bounded with
    seqLow := by
      simp only
      split <;> omega
    seqHigh := by
      simp only
      split <;> omega }

theorem bounded_gcontNdx (bounded : Bounded ctx history) (val : Uint8) :
    Bounded
      { ctx with gcontNdx := if val.toNat ≤ 8 then val.toNat else -1 }
      history :=
  { bounded with
    gcontLow := by
      simp only
      split <;> omega
    gcontHigh := by
      simp only
      split <;> omega }

/-- Three times a byte, in 16 bits. -/
theorem toNat_dacAddress (val : Uint8) :
    (val.setWidth 16 * 3 : Uint16).toNat = 3 * val.toNat := by
  have small := val.isLt
  have three : (3 : Uint16).toNat = 3 := rfl
  rw [BitVec.toNat_mul, BitVec.toNat_setWidth, three]
  omega

theorem bounded_pelReadAddr (bounded : Bounded ctx history)
    (val : Uint8) :
    Bounded { ctx with pelReadAddr := val.setWidth 16 * 3 }
      { history with readStart := 3 * val.toNat, reads := 0 } :=
  { bounded with
    read := toNat_dacAddress val
    readBound := by
      have small := val.isLt
      simp only
      omega }

theorem bounded_pelWriteAddr (bounded : Bounded ctx history)
    (val : Uint8) :
    Bounded { ctx with pelWriteAddr := val.setWidth 16 * 3 }
      { history with writeStart := 3 * val.toNat, writes := 0 } :=
  { bounded with
    write := toNat_dacAddress val
    writeBound := by
      have small := val.isLt
      simp only
      omega }

/-- The ports other than those of the DAC keep all indices inside their
arrays. -/
theorem serves_outb_elsewhere (bounded : Bounded ctx history)
    {port : Uint16} (val : Uint8) (notRead : port ≠ 0x3C7)
    (notWrite : port ≠ 0x3C8) (notData : port ≠ 0x3C9) :
    Serves id (vgaregOutb ctx port val) True history := by
  unfold vgaregOutb
  rw [if_neg notRead, if_neg notWrite, if_neg notData]
  refine serves_ite (fun _ => ?_) fun _ => ?_
  · exact serves_same bounded ⟨rfl, rfl, rfl, rfl, rfl⟩
  refine serves_ite (fun _ => ?_) fun _ => ?_
  · refine serves_assert fun _ => ?_
    exact serves_same bounded ⟨rfl, rfl, rfl, rfl, rfl⟩
  refine serves_ite (fun _ => ?_) fun _ => ?_
  · exact serves_next (bounded_seqNdx bounded val)
  refine serves_ite (fun _ => ?_) fun _ => ?_
  · exact serves_sequencerWrite bounded val
  refine serves_ite (fun _ => ?_) fun _ => ?_
  · exact serves_assert fun _ => serves_same bounded (.refl ctx)
  refine serves_ite (fun _ => ?_) fun _ => ?_
  · exact serves_next (bounded_gcontNdx bounded val)
  refine serves_ite (fun _ => ?_) fun _ => ?_
  · exact serves_graphicsControllerWrite bounded val
  refine serves_ite (fun _ => ?_) fun _ => ?_
  · refine serves_assert fun small => ?_
    exact serves_next { bounded with crtc := Nat.lt_succ_of_le small }
  refine serves_ite (fun _ => ?_) fun _ => ?_
  · exact serves_crtcWrite bounded val
  refine serves_ite (fun _ => ?_) fun _ => ?_
  · exact serves_same bounded ⟨rfl, rfl, rfl, rfl, rfl⟩
  · exact serves_abort

theorem serves_outb (bounded : Bounded ctx history) (port : Uint16)
    (val : Uint8) :
    Serves id (vgaregOutb ctx port val) (history.Inside (.outb port val))
      (history.after (.outb port val)) := by
  by_cases readAddress : port = 0x3C7
  · subst readAddress
    have elsewhere : history.Inside (.outb 0x3C7 val) := by
      intro data
      exact absurd data (by decide)
    exact (serves_next (bounded_pelReadAddr bounded val)).congr
      (iff_of_true trivial elsewhere)
  by_cases writeAddress : port = 0x3C8
  · subst writeAddress
    have elsewhere : history.Inside (.outb 0x3C8 val) := by
      intro data
      exact absurd data (by decide)
    exact (serves_next (bounded_pelWriteAddr bounded val)).congr
      (iff_of_true trivial elsewhere)
  by_cases data : port = 0x3C9
  · subst data
    exact (serves_paletteWrite bounded val).congr
      ⟨fun inside _ => inside, fun inside => inside rfl⟩
  have same : history.after (.outb port val) = history := by
    simp only [DacHistory.after, if_neg readAddress,
      if_neg writeAddress, if_neg data]
  have inside : history.Inside (.outb port val) :=
    fun isData => absurd isData data
  rw [same]
  exact (serves_outb_elsewhere bounded val readAddress writeAddress
    data).congr (iff_of_true trivial inside)

/-! ## Byte reads -/

theorem serves_unchanged (bounded : Bounded ctx history)
    {read : Outcome Uint8} (inside : read ≠ .error .fault) :
    Serves Prod.snd (unchanged ctx read) True history where
  fault_iff :=
    Outcome.bind_ok_eq_error_iff.trans
      (iff_of_false inside (not_not_intro trivial))
  bounded := by
    intro result called
    obtain ⟨val, -, done⟩ := Outcome.bind_eq_ok_iff.mp called
    cases done
    exact bounded

theorem sequencerRead_ne_fault (ctx : VgaCtx) :
    sequencerRead ctx ≠ .error .fault := by
  unfold sequencerRead
  split
  · rename_i mapMask
    rw [mapMask]
    exact fun fault => load_eq_fault_iff.mp fault (by decide)
  · split
    · rename_i memoryMode
      rw [memoryMode]
      exact fun fault => load_eq_fault_iff.mp fault (by decide)
    · split
      · nofun
      · nofun

theorem attributeRead_ne_fault (ctx : VgaCtx) :
    attributeRead ctx ≠ .error .fault := by
  unfold attributeRead
  split
  · rename_i modeControl
    rw [modeControl]
    exact fun fault => load_eq_fault_iff.mp fault (by decide)
  · split
    · rename_i colorSelect
      rw [colorSelect]
      exact fun fault => load_eq_fault_iff.mp fault (by decide)
    · split
      · nofun
      · nofun

theorem crtcRead_ne_fault (bounded : Bounded ctx history) :
    crtcRead ctx ≠ .error .fault := by
  have small := bounded.crtc
  unfold crtcRead
  split
  · nofun
  · exact fun fault =>
      load_eq_fault_iff.mp fault ⟨by omega, by omega⟩

theorem graphicsControllerRead_ne_fault (bounded : Bounded ctx history) :
    graphicsControllerRead ctx ≠ .error .fault := by
  have low := bounded.gcontLow
  have high := bounded.gcontHigh
  unfold graphicsControllerRead
  split
  · exact fun fault =>
      load_eq_fault_iff.mp fault ⟨by omega, by omega⟩
  · nofun

theorem serves_paletteRead (bounded : Bounded ctx history) :
    Serves Prod.snd (paletteRead ctx)
      (history.readStart + history.reads < 768)
      { history with reads := history.reads + 1 } := by
  have address := bounded.read
  refine (serves_load ?_).congr ?_
  · intro inside val
    have upper := inside.2
    have next :
        (ctx.pelReadAddr + 1).toNat =
          history.readStart + (history.reads + 1) := by
      rw [toNat_dacNext _ (by omega), address, Nat.add_assoc]
    have bound : history.readStart + (history.reads + 1) ≤ 768 := by
      omega
    exact { bounded with read := next, readBound := bound }
  · unfold Indexes
    omega

/-- A value is delivered and the context kept. -/
theorem serves_value (bounded : Bounded ctx history) (val : Uint8) :
    Serves Prod.snd (.ok (val, ctx)) True history :=
  serves_ok bounded

theorem serves_inb (bounded : Bounded ctx history) (port : Uint16) :
    Serves Prod.snd (vgaregInb ctx port) (history.Inside (.inb port))
      (history.after (.inb port)) := by
  by_cases data : port = 0x3C9
  · subst data
    exact (serves_paletteRead bounded).congr
      ⟨fun inside _ => inside, fun inside => inside rfl⟩
  · have served : Serves Prod.snd (vgaregInb ctx port) True history := by
      unfold vgaregInb
      rw [if_neg data]
      refine serves_ite (fun _ => serves_value bounded _) fun _ => ?_
      refine serves_ite (fun _ => serves_value bounded _) fun _ => ?_
      refine serves_ite (fun _ => serves_unchanged bounded
        (attributeRead_ne_fault ctx)) fun _ => ?_
      refine serves_ite (fun _ => serves_value bounded _) fun _ => ?_
      refine serves_ite (fun _ => serves_unchanged bounded
        (sequencerRead_ne_fault ctx)) fun _ => ?_
      refine serves_ite (fun _ => serves_value bounded _) fun _ => ?_
      refine serves_ite (fun _ => serves_value bounded _) fun _ => ?_
      refine serves_ite (fun _ => serves_value bounded _) fun _ => ?_
      refine serves_ite (fun _ => serves_unchanged bounded
        (crtcRead_ne_fault bounded)) fun _ => ?_
      refine serves_ite (fun _ => serves_unchanged bounded
        (crtcRead_ne_fault bounded)) fun _ => ?_
      refine serves_ite (fun _ => serves_value bounded _) fun _ => ?_
      refine serves_ite (fun _ => ?_) fun _ => ?_
      · exact serves_ok (bounded.of_same ⟨rfl, rfl, rfl, rfl, rfl⟩)
      refine serves_ite (fun _ => serves_unchanged bounded
        (graphicsControllerRead_ne_fault bounded)) fun _ => ?_
      exact serves_abort
    have same : history.after (.inb port) = history := if_neg data
    have inside : history.Inside (.inb port) :=
      fun isData => absurd isData data
    rw [same]
    exact served.congr (iff_of_true trivial inside)

/-! ## Every access -/

/-- A word write is two byte writes to ports that are none of the DAC. -/
theorem serves_outw (bounded : Bounded ctx history) (port : Uint16)
    (val : Uint16) :
    Serves id (vgaregOutw ctx port val) True history := by
  unfold vgaregOutw
  refine serves_ite (fun indexed => ?_) fun _ => serves_abort
  have lowPort : port ≠ 0x3C7 ∧ port ≠ 0x3C8 ∧ port ≠ 0x3C9 := by
    rcases indexed with rfl | rfl | rfl <;> decide
  have highPort :
      port + 1 ≠ 0x3C7 ∧ port + 1 ≠ 0x3C8 ∧ port + 1 ≠ 0x3C9 := by
    rcases indexed with rfl | rfl | rfl <;> decide
  obtain ⟨lowRead, lowWrite, lowData⟩ := lowPort
  obtain ⟨highRead, highWrite, highData⟩ := highPort
  refine (serves_outb_elsewhere bounded _ lowRead lowWrite lowData).bind
    fun next bounded => ?_
  exact serves_outb_elsewhere bounded _ highRead highWrite highData

theorem serves_vgaAccess (bounded : Bounded ctx history)
    (guest : VgaAccess) :
    Serves Prod.snd (vgaAccess ctx guest) (history.Inside guest)
      (history.after guest) := by
  cases guest with
  | inb port => exact (serves_inb bounded port).map fun _ => rfl
  | outb port val => exact (serves_outb bounded port val).map fun _ => rfl
  | inw port => exact serves_abort
  | outw port val => exact (serves_outw bounded port val).map fun _ => rfl

end Handlers

/-- The bounds, for the context with its history. -/
def IndicesBounded (state : VgaCtx × DacHistory) : Prop :=
  Bounded state.1 state.2

theorem indicesBounded_step {state next : VgaCtx × DacHistory}
    {guest : VgaAccess} {response : VgaResponse}
    (bounded : IndicesBounded state)
    (called : observed vgaAccess DacHistory.observe state guest =
      .ok (response, next)) :
    IndicesBounded next := by
  obtain ⟨ctx, history⟩ := state
  obtain ⟨after, later⟩ := next
  obtain ⟨served, rfl⟩ := observed_eq_ok_iff.mp called
  exact (serves_vgaAccess bounded guest).bounded _ served

theorem indicesBounded_start (pVRAM : Fin 6 → Nat → Uint8) :
    IndicesBounded (VgaCtx.zeroed pVRAM, DacHistory.start) where
  seqLow := (by decide : (-1 : Int) ≤ 0)
  seqHigh := (by decide : (0 : Int) ≤ 4)
  gcontLow := (by decide : (-1 : Int) ≤ 0)
  gcontHigh := (by decide : (0 : Int) ≤ 8)
  crtc := (by decide : 0 < 0x19)
  write := rfl
  writeBound := Nat.zero_le 768
  read := rfl
  readBound := Nat.zero_le 768

/-- In every run from the cleared context, no access leaves an array exactly
when no data access of the DAC goes behind the last byte of the palette. -/
theorem vgaAccess_inside_iff (pVRAM : Fin 6 → Nat → Uint8)
    (guests : List VgaAccess) :
    StepsMeet vgaAccess
        (fun ctx guest => vgaAccess ctx guest ≠ .error .fault)
        (VgaCtx.zeroed pVRAM) guests ↔
      StepsMeet (observed vgaAccess DacHistory.observe)
        (fun state guest => state.2.Inside guest)
        (VgaCtx.zeroed pVRAM, DacHistory.start) guests := by
  have unobserved :
      StepsMeet (observed vgaAccess DacHistory.observe)
          (fun state guest => vgaAccess state.1 guest ≠ .error .fault)
          (VgaCtx.zeroed pVRAM, DacHistory.start) guests ↔
        StepsMeet vgaAccess
          (fun ctx guest => vgaAccess ctx guest ≠ .error .fault)
          (VgaCtx.zeroed pVRAM) guests :=
    stepsMeet_observed_iff fun ctx (guest : VgaAccess) =>
      vgaAccess ctx guest ≠ .error .fault
  rw [← unobserved]
  refine stepsMeet_congr indicesBounded_step ?_ (indicesBounded_start pVRAM)
  intro state guest bounded
  exact not_iff_comm.mp (serves_vgaAccess bounded guest).fault_iff.symm

/-- The last palette entry is addressed, and four bytes are written. -/
theorem vgaAccess_not_always_inside :
    ¬ ∀ (pVRAM : Fin 6 → Nat → Uint8) (guests : List VgaAccess),
      StepsMeet vgaAccess
        (fun ctx guest => vgaAccess ctx guest ≠ .error .fault)
        (VgaCtx.zeroed pVRAM) guests := by
  intro always
  have inside :=
    always (fun _ _ => 0)
      [.outb 0x3C8 255, .outb 0x3C9 0, .outb 0x3C9 0, .outb 0x3C9 0,
        .outb 0x3C9 0]
  exact (((((inside.2 _ _ rfl).2 _ _ rfl).2 _ _ rfl).2 _ _ rfl).1) rfl

end Kvmulate.Vga
