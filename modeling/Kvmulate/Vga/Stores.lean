import Kvmulate.Vga.Registers
import Kvmulate.Vga.RomTracks

/-!
# The stores of a guest to the VGA memory

What the planes hold after MMIO writes to the window and accesses to the
registers, from the writes and the map mask at their time.
-/

namespace Kvmulate.Vga

open DeviceLib Kvmulate.Io Kvmulate.Pci

/-! ## Steps -/

/-- A write to the memory window, or an access to the registers. -/
inductive ScreenStep where
  | write (address : Uint64) (pData : List Uint8)
  | register (access : VgaAccess)

/-- The bytes are 1, 2 or 4, and lie inside the window. -/
def ScreenStep.Inside : ScreenStep → Prop
  | .write address pData =>
      (pData.length = 1 ∨ pData.length = 2 ∨ pData.length = 4) ∧
        0xA0000 ≤ address.toNat ∧ address.toNat + pData.length ≤ 0xC0000
  | .register _ => True

def screenStep : Call Video ScreenStep Unit
  | video, .write address pData => do
      let (_, next) ←
        mmioWrite (mmioDevices video) address
          (BitVec.ofNat 32 pData.length) pData video
      pure ((), next)
  | video, .register access => do
      let (_, vga) ← vgaAccess video.vga access
      pure ((), { video with vga := vga })

/-! ## The bytes last stored -/

/-- A write of the guest, with the map mask at its time. -/
structure GuestStore where
  mask : Uint8
  address : Nat
  bytes : List Uint8
deriving DecidableEq, Repr

/-- The byte that the write stores at an address of a plane. -/
def GuestStore.byteAt (store : GuestStore) (plane address : Nat) :
    Option Uint8 :=
  if store.mask.getLsbD plane = true ∧ store.address ≤ address ∧
      address < store.address + store.bytes.length then
    some (store.bytes.getD (address - store.address) 0)
  else none

/-- The writes, the latest one first. -/
def recordStore (video : Video) (step : ScreenStep) (_ : Unit)
    (history : List GuestStore) : List GuestStore :=
  match step with
  | .write address pData =>
      ⟨mapMask video.vga, address.toNat, pData⟩ :: history
  | .register _ => history

/-- What the planes show: the byte last stored, or the initial content. -/
def lastStored (pVRAM : Fin 6 → Nat → Uint8) (history : List GuestStore)
    (plane : Fin 6) (address : Nat) : Uint8 :=
  (history.findSome? fun store => store.byteAt plane.val address).getD
    (pVRAM plane (address - 0xA0000))

theorem lastStored_cons (pVRAM : Fin 6 → Nat → Uint8)
    (store : GuestStore) (history : List GuestStore) (plane : Fin 6)
    (address : Nat) :
    lastStored pVRAM (store :: history) plane address =
      (store.byteAt plane.val address).getD
        (lastStored pVRAM history plane address) := by
  unfold lastStored
  rw [List.findSome?_cons]
  cases store.byteAt plane.val address with
  | none => rfl
  | some byte => rfl

/-! ## The registers leave the planes alone -/

section Registers

variable {α : Type} {ctx : VgaCtx} {ctxOf : α → VgaCtx}

/-- If the call returns, the planes are as before. -/
def KeepsPlanes (ctx : VgaCtx) (ctxOf : α → VgaCtx) (outcome : Outcome α) :
    Prop :=
  Outcome.Ensures (fun result => (ctxOf result).pVRAM = ctx.pVRAM) outcome

theorem keeps_sequencerWrite (val : Uint8) :
    KeepsPlanes ctx id (sequencerWrite ctx val) := by
  unfold sequencerWrite
  refine Outcome.ensures_ite (Outcome.ensures_ok rfl) ?_
  refine Outcome.ensures_ite (Outcome.ensures_ok rfl) ?_
  refine Outcome.ensures_ite (Outcome.ensures_ok rfl) ?_
  refine Outcome.ensures_ite (Outcome.ensures_ok rfl) ?_
  refine Outcome.ensures_ite (Outcome.ensures_ok rfl) ?_
  exact Outcome.ensures_ite (Outcome.ensures_ok rfl) Outcome.ensures_error

/-- A handler that ends in a store to a table. -/
theorem keeps_stored {β : Type} {first : Outcome β} {stored : β → α}
    (same : ∀ value, (ctxOf (stored value)).pVRAM = ctx.pVRAM) :
    KeepsPlanes ctx ctxOf (do
      let value ← first
      pure (stored value)) :=
  Outcome.ensures_bind fun value _ => Outcome.ensures_ok (same value)

theorem keeps_outb (port : Uint16) (val : Uint8) :
    KeepsPlanes ctx id (vgaregOutb ctx port val) := by
  unfold vgaregOutb
  refine Outcome.ensures_ite (Outcome.ensures_ok rfl) ?_
  refine Outcome.ensures_ite (keeps_stored fun _ => rfl) ?_
  refine Outcome.ensures_ite (Outcome.ensures_ok rfl) ?_
  refine Outcome.ensures_ite (keeps_sequencerWrite val) ?_
  refine Outcome.ensures_ite (keeps_stored fun _ => rfl) ?_
  refine Outcome.ensures_ite (Outcome.ensures_ok rfl) ?_
  refine Outcome.ensures_ite (Outcome.ensures_ok rfl) ?_
  refine Outcome.ensures_ite (keeps_stored fun _ => rfl) ?_
  refine Outcome.ensures_ite (Outcome.ensures_ok rfl) ?_
  refine Outcome.ensures_ite ?_ ?_
  · exact Outcome.ensures_ite (keeps_stored fun _ => rfl)
      (Outcome.ensures_ok rfl)
  refine Outcome.ensures_ite (keeps_stored fun _ => rfl) ?_
  refine Outcome.ensures_ite (keeps_stored fun _ => rfl) ?_
  exact Outcome.ensures_ite (Outcome.ensures_ok rfl) Outcome.ensures_error

theorem keeps_outw (port val : Uint16) :
    KeepsPlanes ctx id (vgaregOutw ctx port val) := by
  unfold vgaregOutw
  refine Outcome.ensures_ite ?_ Outcome.ensures_error
  intro last returned
  rcases Outcome.bind_eq_ok_iff.mp returned with ⟨middle, first, second⟩
  exact (keeps_outb _ _ last second).trans (keeps_outb _ _ middle first)

theorem keeps_inb (port : Uint16) :
    KeepsPlanes ctx Prod.snd (vgaregInb ctx port) := by
  intro result read
  rw [ensures_vgaregInb ctx port result read]

/-- No access to the registers changes a plane. -/
theorem planes_of_vgaAccess {next : VgaCtx} {access : VgaAccess}
    {response : VgaResponse}
    (accessed : vgaAccess ctx access = .ok (response, next)) :
    next.pVRAM = ctx.pVRAM := by
  cases access with
  | inb port =>
      rcases Outcome.bind_eq_ok_iff.mp accessed with
        ⟨⟨val, after⟩, read, built⟩
      cases built
      exact keeps_inb port _ read
  | outb port val =>
      rcases Outcome.bind_eq_ok_iff.mp accessed with
        ⟨after, written, built⟩
      cases built
      exact keeps_outb port val _ written
  | inw port =>
      rcases Outcome.bind_eq_ok_iff.mp accessed with ⟨_, read, -⟩
      cases read
  | outw port val =>
      rcases Outcome.bind_eq_ok_iff.mp accessed with
        ⟨after, written, built⟩
      cases built
      exact keeps_outw port val _ written

end Registers

/-! ## What a write stores -/

section Write

variable {ctx next : VgaCtx} {offset index : Nat} {bytes : List Uint8}
variable {plane : Fin 6}

/-- The write reaches the byte of a plane. -/
def Covers (offset index : Nat) (bytes : List Uint8) : Prop :=
  offset ≤ index ∧ index < offset + bytes.length

instance : Decidable (Covers offset index bytes) :=
  inferInstanceAs (Decidable (_ ∧ _))

/-- The planes after a store to those of a list that are enabled. -/
def storedPlanes (ctx : VgaCtx) (planes : List (Fin 6)) (offset : Nat)
    (bytes : List Uint8) (plane : Fin 6) (index : Nat) : Uint8 :=
  if (plane ∈ planes ∧ planeEnabled ctx plane) ∧
      Covers offset index bytes then
    bytes.getD (index - offset) 0
  else ctx.pVRAM plane index

theorem storedPlanes_of_covered {planes : List (Fin 6)}
    (mem : plane ∈ planes) (enabled : planeEnabled ctx plane)
    (covered : Covers offset index bytes) :
    storedPlanes ctx planes offset bytes plane index =
      bytes.getD (index - offset) 0 :=
  if_pos ⟨⟨mem, enabled⟩, covered⟩

theorem storedPlanes_of_spared {planes : List (Fin 6)}
    (spared : ¬ (planeEnabled ctx plane ∧ Covers offset index bytes)) :
    storedPlanes ctx planes offset bytes plane index =
      ctx.pVRAM plane index :=
  if_neg fun reached => spared ⟨reached.1.2, reached.2⟩

/-- Planes that are not enabled do not matter. -/
theorem storedPlanes_skip {first : Fin 6} {rest : List (Fin 6)}
    (disabled : ¬ planeEnabled ctx first) :
    storedPlanes ctx (first :: rest) offset bytes =
      storedPlanes ctx rest offset bytes := by
  funext plane index
  have same :
      plane ∈ first :: rest ∧ planeEnabled ctx plane ↔
        plane ∈ rest ∧ planeEnabled ctx plane := by
    rw [List.mem_cons]
    constructor
    · intro both
      rcases both with ⟨here | there, enabled⟩
      · rw [here] at enabled
        exact absurd enabled disabled
      · exact ⟨there, enabled⟩
    · intro both
      exact ⟨Or.inr both.1, both.2⟩
  simp only [storedPlanes, same]

/-- The store to the first plane. -/
def VgaCtx.storedFirst (ctx : VgaCtx) (first : Fin 6) (offset : Nat)
    (bytes : List Uint8) : VgaCtx :=
  { ctx with
    pVRAM := Function.update ctx.pVRAM first fun index =>
      if Covers offset index bytes then bytes.getD (index - offset) 0
      else ctx.pVRAM first index }

theorem storePlane_eq (first : Fin 6)
    (fits : offset + bytes.length ≤ planeSize) :
    storePlane ctx first offset bytes =
      .ok (ctx.storedFirst first offset bytes) := by
  rw [storePlane, Outcome.guard_of fits]
  rfl

theorem storedPlanes_cons {first : Fin 6} {rest : List (Fin 6)}
    (enabled : planeEnabled ctx first) :
    storedPlanes (ctx.storedFirst first offset bytes) rest offset bytes =
      storedPlanes ctx (first :: rest) offset bytes := by
  funext plane index
  have mask : planeEnabled (ctx.storedFirst first offset bytes) plane ↔
      planeEnabled ctx plane :=
    Iff.rfl
  by_cases same : plane = first
  · subst same
    by_cases covered : Covers offset index bytes
    · simp [storedPlanes, VgaCtx.storedFirst, covered, enabled]
    · simp [storedPlanes, VgaCtx.storedFirst, covered]
  · have elsewhere :
        (ctx.storedFirst first offset bytes).pVRAM plane =
          ctx.pVRAM plane :=
      Function.update_of_ne same _ _
    simp only [storedPlanes, mask, elsewhere, List.mem_cons, same,
      false_or]

/-- Bytes that fit are stored in every enabled plane of the list. -/
theorem storeEnabled_of_fits (fits : offset + bytes.length ≤ planeSize)
    (planes : List (Fin 6)) (ctx : VgaCtx) :
    storeEnabled offset bytes ctx planes =
      .ok { ctx with pVRAM := storedPlanes ctx planes offset bytes } := by
  induction planes generalizing ctx with
  | nil =>
      have none : storedPlanes ctx [] offset bytes = ctx.pVRAM := by
        funext plane index
        apply if_neg
        intro reached
        exact absurd reached.1.1 List.not_mem_nil
      rw [none]
      rfl
  | cons first rest inductionHypothesis =>
      rw [storeEnabled]
      by_cases enabled : planeEnabled ctx first
      · rw [if_pos enabled, storePlane_eq first fits]
        refine (inductionHypothesis _).trans ?_
        rw [storedPlanes_cons enabled]
        rfl
      · rw [if_neg enabled]
        refine (inductionHypothesis ctx).trans ?_
        rw [storedPlanes_skip enabled]

def VgaCtx.stored (ctx : VgaCtx) (offset : Nat) (bytes : List Uint8) :
    VgaCtx :=
  { ctx with pVRAM := storedPlanes ctx writtenPlanes offset bytes }

end Write

/-! ## The window -/

section Window

variable {video next : Video} {address : Uint64} {pData : List Uint8}

/-- The upper bits of an address of the window. -/
theorem and_window (low : 0xA0000 ≤ address.toNat)
    (high : address.toNat < 0xC0000) :
    address &&& 0xFFFE0000 = 0xA0000 := by
  have parts := toNat_and_add_and_not address 0x1FFFF
  have rest : (address &&& 0x1FFFF).toNat = address.toNat % 0x20000 := by
    rw [BitVec.toNat_and]
    exact Nat.and_two_pow_sub_one_eq_mod _ 17
  have upper : address &&& ~~~0x1FFFF = 0xA0000 := by
    apply BitVec.eq_of_toNat_eq
    change _ = 0xA0000
    omega
  have mask : (0xFFFE0000 : Uint64) = ~~~0x1FFFF &&& 0xFFFFFFFF := by
    decide
  rw [mask, ← BitVec.and_assoc, upper]
  decide

/-- If the window of the ROM is elsewhere, the VGA memory is found. -/
theorem getDevice_window (apart : video.pci.rom.base ≠ 0xA0000)
    (low : 0xA0000 ≤ address.toNat) (high : address.toNat < 0xC0000) :
    Kvmulate.getDevice (mmioDevices video) address =
      some gfxramOfVideo := by
  have window := and_window low high
  have rejected : (pcirom video.pci.rom.base).decodes address = false := by
    apply decide_eq_false
    intro decoded
    have same : address &&& 0xFFFE0000 =
        video.pci.rom.base.setWidth 64 := decoded.2
    rw [window] at same
    apply apart
    bv_omega
  have accepted : gfxramOfVideo.decodes address = true :=
    decide_eq_true ⟨by decide, window⟩
  unfold Kvmulate.getDevice
  change List.find? _ [_, _] = _
  rw [List.find?_cons, rejected, List.find?_cons, accepted]

theorem planeOffset_window (low : 0xA0000 ≤ address.toNat) :
    planeOffset 0xA0000 address = address.toNat - 0xA0000 := by
  have bound := address.isLt
  unfold planeOffset
  rw [BitVec.toNat_sub, BitVec.toNat_setWidth]
  change (2 ^ 64 - 0xA0000 + address.toNat) % 2 ^ 64 = _
  omega

/-- The planes after a write to the window. -/
def Video.stored (video : Video) (address : Uint64)
    (pData : List Uint8) : Video :=
  { video with vga := video.vga.stored (address.toNat - 0xA0000) pData }

/-- The bytes of the guest go to the planes as they are. -/
theorem callWrite_planes {width : Nat} (length : 8 * pData.length = width)
    (low : 0xA0000 ≤ address.toNat)
    (high : address.toNat + pData.length ≤ 0xC0000) :
    callWrite (some (writeVga (@writePlanes width))) 0xA0000 address pData
        video = .ok (0, video.stored address pData) := by
  have size : planeSize = 0x20000 := rfl
  have count : width / 8 = pData.length := by
    omega
  have bytes : leBytes (width / 8) (leValue width (pData.take (width / 8))) =
      pData := by
    rw [count, List.take_length, leBytes_leValue (by omega)]
  have stores : writePlanes 0xA0000 address
      (leValue width (pData.take (width / 8))) video.vga =
        .ok (video.vga.stored (address.toNat - 0xA0000) pData) := by
    rw [writePlanes, bytes, planeOffset_window low,
      storeEnabled_of_fits (by omega)]
    rfl
  simp only [callWrite, writeVga, stores, Outcome.ok_bind,
    Outcome.pure_eq_ok]
  rfl

/-- A write inside the window is a store to the enabled planes. -/
theorem mmioWrite_window (apart : video.pci.rom.base ≠ 0xA0000)
    (inside : (ScreenStep.write address pData).Inside) :
    mmioWrite (mmioDevices video) address (BitVec.ofNat 32 pData.length)
        pData video = .ok (0, video.stored address pData) := by
  rcases inside with ⟨widths, low, high⟩
  unfold mmioWrite
  rw [getDevice_window apart low (by omega)]
  rcases widths with one | two | four
  · rw [one]
    exact callWrite_planes (by omega) low high
  · rw [two]
    exact callWrite_planes (by omega) low high
  · rw [four]
    exact callWrite_planes (by omega) low high

/-- A write inside the window returns. -/
theorem write_returns (apart : video.pci.rom.base ≠ 0xA0000)
    (inside : (ScreenStep.write address pData).Inside) :
    ∃ after, screenStep video (.write address pData) = .ok ((), after) := by
  exact ⟨video.stored address pData,
    Outcome.bind_eq_ok_iff.mpr ⟨_, mmioWrite_window apart inside, rfl⟩⟩

end Window

end Kvmulate.Vga
