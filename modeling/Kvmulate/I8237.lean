import Kvmulate.Dma
import Kvmulate.Io.Parts

/-!
# The registers of the DMA controllers

The port handlers of `devices/x86/i8237-dma.c`, in a table of `io.c` with
nothing else.
-/

namespace Kvmulate.I8237

open DeviceLib Kvmulate.Io

/-! ## The handlers -/

/-- One controller: the registers of `DmaCtl`, and what only the port handlers
use. -/
structure Ctl extends DmaCtl where
  flipflop : Vector Uint32 7
  mode : Uint8
  mask : Uint8
deriving DecidableEq

/-- The static `dma`. -/
structure Controllers where
  ctl : Fin 2 → Ctl
  page : Vector Uint8 0xF

def Ctl.zero : Ctl where
  regs := Vector.replicate 7 (Vector.replicate 2 0)
  flipflop := Vector.replicate 7 0
  mode := 0
  mask := 0

def Controllers.zero : Controllers where
  ctl := fun _ => Ctl.zero
  page := Vector.replicate 0xF 0

/-- What a transfer uses. -/
def Controllers.dma (dma : Controllers) : Dma where
  ctl := Vector.ofFn fun index => (dma.ctl index).toDmaCtl
  page := dma.page

/-- Change one of the controllers. -/
def Controllers.setCtl (dma : Controllers) (ctl : Fin 2) (next : Ctl) :
    Controllers :=
  { dma with
    ctl := fun index => if index = ctl then next else dma.ctl index }

def wrSingleMaskBit : Uint16 := 0xA
def wrModeReg : Uint16 := 0xB
def wrMasterClear : Uint16 := 0xD
def rCommand : Uint16 := 0x8
def wFlipflopReset : Uint16 := 0xC

/-- The registers of the second controller are two ports apart. -/
def decodePort (base port : Uint16) : Fin 2 × Uint16 :=
  if base ≠ 0x00 then (⟨1, Nat.one_lt_two⟩, port >>> 1)
  else (⟨0, Nat.two_pos⟩, port)

/-- `regs[port][flipflop[port]++ & 1]` -/
def Ctl.readReg (ctl : Ctl) (port : Int) : Outcome (Uint8 × Ctl) := do
  let flip ← load ctl.flipflop port
  let reg ← load ctl.regs port
  let val ← load reg (flip &&& 1).toNat
  let flipflop ← store ctl.flipflop port (flip + 1)
  pure (val, { ctl with flipflop := flipflop })

/-- `regs[port][flipflop[port]++ & 1] = val` -/
def Ctl.writeReg (ctl : Ctl) (port : Int) (val : Uint8) :
    Outcome Ctl := do
  let flip ← load ctl.flipflop port
  let reg ← load ctl.regs port
  let written ← store reg (flip &&& 1).toNat val
  let regs ← store ctl.regs port written
  let flipflop ← store ctl.flipflop port (flip + 1)
  pure { ctl with regs := regs, flipflop := flipflop }

/-- `memset(flipflop, 0, 7)` clears seven bytes: the first flip-flop and the
low bytes of the second. -/
def Ctl.resetFlipflops (ctl : Ctl) : Ctl :=
  { ctl with
    flipflop :=
      (ctl.flipflop.setIfInBounds 0 0).setIfInBounds 1
        (ctl.flipflop.get 1 &&& 0xFF000000) }

def i8237Inb (dma : Controllers) (base port : Uint16) :
    Outcome (Uint8 × Controllers) :=
  let (ctl, port) := decodePort base port
  if port ≤ 0x7 then do
    let (val, next) ← (dma.ctl ctl).readReg port.toNat
    pure (val, dma.setCtl ctl next)
  else if port = rCommand then pure ((1 : Uint8) <<< 2, dma)
  else if port = 0x10 then pure (0, dma)
  else .error .abort

def i8237Outb (dma : Controllers) (base port : Uint16) (val : Uint8) :
    Outcome Controllers :=
  let (ctl, port) := decodePort base port
  let old := dma.ctl ctl
  if port ≤ 7 then do
    let next ← old.writeReg port.toNat val
    pure (dma.setCtl ctl next)
  else if port = wrMasterClear then pure (dma.setCtl ctl Ctl.zero)
  else if port = wrModeReg then
    pure (dma.setCtl ctl { old with mode := val })
  else if port = wrSingleMaskBit then
    pure (dma.setCtl ctl { old with mask := 0xF0 ||| (val &&& 0xF) })
  else if port = wFlipflopReset then
    if 0 < val then do
      Outcome.assert (val = 0xFF)
      pure (dma.setCtl ctl old.resetFlipflops)
    else pure dma
  else .error .abort

def i8237PageOutb (dma : Controllers) (port : Uint16) (val : Uint8) :
    Outcome Controllers := do
  let page ← store dma.page port.toNat val
  pure { dma with page := page }

def i8237PageInb : Outcome (Uint8 × Controllers) :=
  .error .abort

/-! ## Accesses -/

/-- The handler of one of the two controllers. -/
def i8237Handler (base mask : Uint16) : IoHandler Controllers where
  base := base
  mask := mask
  inb := some fun address dma => i8237Inb dma base address
  inw := none
  inl := none
  outb := some fun address val dma => i8237Outb dma base address val
  outw := none
  outl := none

def i8237PageHandler : IoHandler Controllers where
  base := 0x80
  mask := ~~~0x0F
  inb := some fun _ _ => i8237PageInb
  inw := none
  inl := none
  outb := some fun address val dma => i8237PageOutb dma address val
  outw := none
  outl := none

/-- The handlers that `x86_i8237_dma_init` registers. -/
inductive Handler where
  | ctrl0
  | ctrl1
  | page
deriving DecidableEq, Repr

def Handler.base : Handler → Uint16
  | .ctrl0 => 0x00
  | .ctrl1 => 0xC0
  | .page => 0x80

def Handler.mask : Handler → Uint16
  | .ctrl0 => ~~~0x0F
  | .ctrl1 => ~~~0x1F
  | .page => ~~~0x0F

def Handler.entries : Handler → IoHandler Controllers
  | .ctrl0 => i8237Handler 0x00 (~~~0x0F)
  | .ctrl1 => i8237Handler 0xC0 (~~~0x1F)
  | .page => i8237PageHandler

def allHandlers : List Handler := [.ctrl0, .ctrl1, .page]

theorem allHandlers_room :
    (allHandlers.map Handler.entries).length < maxHandlers :=
  Nat.le_of_ble_eq_true rfl

/-- The table where nothing else is registered. -/
def table : IoTable Controllers :=
  ⟨allHandlers.map Handler.entries, allHandlers_room⟩

/-- Which of the handlers `lookup_handler` finds. -/
def handlerAt (address : Uint16) : Option Handler :=
  (lookupHandler table address).bind fun found =>
    allHandlers.find? fun hdl => hdl.base = found.base

inductive DmaAccess where
  | inb (address : Uint16)
  | outb (address : Uint16) (val : Uint8)
deriving DecidableEq

def DmaAccess.address : DmaAccess → Uint16
  | .inb address => address
  | .outb address _ => address

def dmaStep : Call Controllers DmaAccess (Option Uint8)
  | dma, .inb address => do
      let (val, next) ← ioInb table address dma
      pure (some val, next)
  | dma, .outb address val => do
      pure (none, ← ioOutb table address val dma)

section Lookup

variable {dma : Controllers} {hdl : Handler} {address : Uint16}
variable {val : Uint8}

theorem entries_base (hdl : Handler) : hdl.entries.base = hdl.base := by
  cases hdl with
  | ctrl0 => rfl
  | ctrl1 => rfl
  | page => rfl

theorem entries_mask (hdl : Handler) : hdl.entries.mask = hdl.mask := by
  cases hdl with
  | ctrl0 => rfl
  | ctrl1 => rfl
  | page => rfl

/-- The windows start at different ports. -/
theorem find_base (hdl : Handler) :
    (allHandlers.find? fun other => other.base = hdl.base) = some hdl := by
  cases hdl with
  | ctrl0 => rfl
  | ctrl1 => rfl
  | page => rfl

theorem lookup_table (address : Uint16) :
    lookupHandler table address =
      (handlerAt address).map Handler.entries := by
  unfold handlerAt
  cases found : lookupHandler table address with
  | none => rfl
  | some handler =>
      obtain ⟨hdl, -, rfl⟩ :=
        List.mem_map.mp (List.mem_of_find?_eq_some found)
      simp only [Option.bind_some, entries_base, find_base,
        Option.map_some]

theorem lookup_of_handlerAt (shown : handlerAt address = some hdl) :
    lookupHandler table address = some hdl.entries := by
  rw [lookup_table, shown]
  rfl

theorem handlerAt_of_lookup
    (found : lookupHandler table address = some hdl.entries) :
    handlerAt address = some hdl := by
  rw [handlerAt, found, Option.bind_some, entries_base, find_base]

/-- No handler answers outside of the windows. -/
theorem dmaStep_of_none (shown : handlerAt address = none) :
    dmaStep dma (.inb address) = .ok (some 0xFF, dma) ∧
      dmaStep dma (.outb address val) = .ok (none, dma) := by
  have missing : lookupHandler table address = none := by
    rw [lookup_table, shown]
    rfl
  simp only [dmaStep, ioInb, ioOutb, missing]
  exact ⟨rfl, rfl⟩

theorem dmaStep_inb_eq (shown : handlerAt address = some hdl) :
    dmaStep dma (.inb address) = (do
      let (val, next) ← callIn hdl.entries.inb (address - hdl.base) dma
      pure (some val, next)) := by
  simp only [dmaStep, ioInb, lookup_of_handlerAt shown, entries_base]

theorem dmaStep_outb_eq (shown : handlerAt address = some hdl) :
    dmaStep dma (.outb address val) = (do
      let next ← callOut hdl.entries.outb (address - hdl.base) val dma
      pure (none, next)) := by
  simp only [dmaStep, ioOutb, lookup_of_handlerAt shown, entries_base]

/-- The two controllers differ in their windows. -/
theorem dmaStep_inb_of_ctrl (isCtrl : hdl ≠ .page)
    (shown : handlerAt address = some hdl) :
    dmaStep dma (.inb address) = (do
      let (val, next) ← i8237Inb dma hdl.base (address - hdl.base)
      pure (some val, next)) := by
  rw [dmaStep_inb_eq shown]
  cases hdl with
  | ctrl0 => rfl
  | ctrl1 => rfl
  | page => exact absurd rfl isCtrl

theorem dmaStep_outb_of_ctrl (isCtrl : hdl ≠ .page)
    (shown : handlerAt address = some hdl) :
    dmaStep dma (.outb address val) = (do
      let next ← i8237Outb dma hdl.base (address - hdl.base) val
      pure (none, next)) := by
  rw [dmaStep_outb_eq shown]
  cases hdl with
  | ctrl0 => rfl
  | ctrl1 => rfl
  | page => exact absurd rfl isCtrl

theorem dmaStep_outb_of_page (shown : handlerAt address = some .page) :
    dmaStep dma (.outb address val) = (do
      let next ← i8237PageOutb dma (address - 0x80) val
      pure (none, next)) :=
  dmaStep_outb_eq shown

/-- A page port cannot be read. -/
theorem dmaStep_inb_of_page (shown : handlerAt address = some .page) :
    dmaStep dma (.inb address) = .error .abort :=
  dmaStep_inb_eq shown

end Lookup

/-! ## Isolation -/

/-- The address or count register behind an address. -/
def registerAt (address : Uint16) : Option (Fin 2 × Nat) :=
  match handlerAt address with
  | none => none
  | some .page => none
  | some hdl =>
      let (ctl, port) := decodePort hdl.base (address - hdl.base)
      if port ≤ 7 then some (ctl, port.toNat) else none

/-- A byte of a register. -/
def Ctl.byte (ctl : Ctl) (register index : Nat) : Option Uint8 :=
  ctl.regs.toList[register]? >>= fun reg => reg.toList[index]?

/-- Of everything, one byte of a register and its flip-flop may change. -/
structure ChangesOnly (dma next : Controllers) (ctl : Fin 2)
    (register : Nat) : Prop where
  others : ∀ other, other ≠ ctl → next.ctl other = dma.ctl other
  page : next.page = dma.page
  mode : (next.ctl ctl).mode = (dma.ctl ctl).mode
  mask : (next.ctl ctl).mask = (dma.ctl ctl).mask
  flipflop : ∀ other, other ≠ register →
    (next.ctl ctl).flipflop.toList[other]? =
      (dma.ctl ctl).flipflop.toList[other]?
  regs : ∃ index, ∀ otherRegister otherIndex,
    (otherRegister, otherIndex) ≠ (register, index) →
      (next.ctl ctl).byte otherRegister otherIndex =
        (dma.ctl ctl).byte otherRegister otherIndex

def Isolated (dma : Controllers) (access : DmaAccess) : Prop :=
  ∀ ctl register, registerAt access.address = some (ctl, register) →
    ∀ response next, dmaStep dma access = .ok (response, next) →
      ChangesOnly dma next ctl register

/-- No index is outside its array. -/
def InBounds (dma : Controllers) (access : DmaAccess) : Prop :=
  dmaStep dma access ≠ .error .fault

/-- The addresses of the last register of the controllers. -/
def LastRegister (address : Uint16) : Prop :=
  address = 0x07 ∨ address = 0xCE ∨ address = 0xCF

/-- The last register of each controller and the last page port have no
place in their arrays. -/
def HasPlace : DmaAccess → Prop
  | .inb address => ¬ LastRegister address
  | .outb address _ => ¬ LastRegister address ∧ address ≠ 0x8F

/-! ## One register -/

section Register

variable {ctl next : Ctl} {register : Nat} {val : Uint8}

/-- The flip-flop selects one of the two bytes. -/
theorem flip_indexes (flip : Uint32) :
    Indexes 2 ((flip &&& 1).toNat : Int) := by
  have small : (flip &&& 1).toNat ≤ 1 := toNat_and_le_right flip 1
  exact ⟨by omega, by omega⟩

/-- A read of a register advances its flip-flop. -/
theorem readReg_of_indexes (ctl : Ctl)
    (inside : Indexes 7 (register : Int)) :
    ∃ val flip, ctl.readReg register =
      .ok (val,
        { ctl with
          flipflop := ctl.flipflop.setIfInBounds register flip }) := by
  obtain ⟨flip, flipLoaded⟩ :=
    @load_of_indexes _ _ ctl.flipflop register inside
  obtain ⟨reg, regLoaded⟩ := @load_of_indexes _ _ ctl.regs register inside
  obtain ⟨val, valLoaded⟩ := @load_of_indexes _ _ reg _ (flip_indexes flip)
  refine ⟨val, flip + 1, ?_⟩
  unfold Ctl.readReg
  simp only [flipLoaded, regLoaded, valLoaded, Outcome.ok_bind,
    store_of_indexes inside]
  rfl

/-- A write also stores the byte that the flip-flop selects. -/
theorem writeReg_eq {reg : Vector Uint8 2} {flip : Uint32}
    (found : ctl.regs.toList[register]? = some reg)
    (flips : ctl.flipflop.toList[register]? = some flip) (val : Uint8) :
    ctl.writeReg register val =
      .ok { ctl with
        regs :=
          ctl.regs.setIfInBounds register
            (reg.setIfInBounds (flip &&& 1).toNat val)
        flipflop := ctl.flipflop.setIfInBounds register (flip + 1) } := by
  have inside : Indexes 7 (register : Int) := by
    have bound := lt_of_getElem? found
    exact ⟨by omega, by omega⟩
  unfold Ctl.writeReg
  simp only [load_eq_ok_iff.mpr found, load_eq_ok_iff.mpr flips,
    Outcome.ok_bind, store_of_indexes inside,
    store_of_indexes (flip_indexes flip)]
  rfl

theorem writeReg_of_indexes (ctl : Ctl) (val : Uint8)
    (inside : Indexes 7 (register : Int)) :
    ∃ (reg : Vector Uint8 2) (index : Nat) (flip : Uint32),
      ctl.regs.toList[register]? = some reg ∧
        ctl.writeReg register val =
          .ok { ctl with
            regs :=
              ctl.regs.setIfInBounds register
                (reg.setIfInBounds index val)
            flipflop := ctl.flipflop.setIfInBounds register flip } := by
  obtain ⟨flip, flipLoaded⟩ :=
    @load_of_indexes _ _ ctl.flipflop register inside
  obtain ⟨reg, regLoaded⟩ := @load_of_indexes _ _ ctl.regs register inside
  have found := load_eq_ok_iff.mp regLoaded
  exact ⟨reg, (flip &&& 1).toNat, flip + 1, found,
    writeReg_eq found (load_eq_ok_iff.mp flipLoaded) val⟩

/-- The register that has no place is a fault. -/
theorem readReg_outside (ctl : Ctl)
    (outside : ¬ Indexes 7 (register : Int)) :
    ctl.readReg register = .error .fault := by
  unfold Ctl.readReg
  rw [load_eq_fault_iff.mpr outside]
  rfl

theorem writeReg_outside (ctl : Ctl) (val : Uint8)
    (outside : ¬ Indexes 7 (register : Int)) :
    ctl.writeReg register val = .error .fault := by
  unfold Ctl.writeReg
  rw [load_eq_fault_iff.mpr outside]
  rfl

end Register

/-! ## One access -/

section Access

variable {dma next : Controllers} {ctl : Fin 2} {register : Nat}
variable {address : Uint16} {val : Uint8}

theorem setCtl_same (next : Ctl) : (dma.setCtl ctl next).ctl ctl = next :=
  if_pos rfl

theorem setCtl_other (next : Ctl) {other : Fin 2} (different : other ≠ ctl) :
    (dma.setCtl ctl next).ctl other = dma.ctl other :=
  if_neg different

/-- An address of a register is decoded to it by one of the controllers. -/
theorem register_cases (found : registerAt address = some (ctl, register)) :
    ∃ hdl port, handlerAt address = some hdl ∧ hdl ≠ .page ∧
      decodePort hdl.base (address - hdl.base) = (ctl, port) ∧
        port ≤ 7 ∧ port.toNat = register := by
  unfold registerAt at found
  have one (hdl : Handler) (isCtrl : hdl ≠ .page)
      (shown : handlerAt address = some hdl)
      (found :
        (if (decodePort hdl.base (address - hdl.base)).2 ≤ 7 then
          some ((decodePort hdl.base (address - hdl.base)).1,
            (decodePort hdl.base (address - hdl.base)).2.toNat)
        else none) = some (ctl, register)) :
      ∃ hdl port, handlerAt address = some hdl ∧ hdl ≠ .page ∧
        decodePort hdl.base (address - hdl.base) = (ctl, port) ∧
          port ≤ 7 ∧ port.toNat = register := by
    by_cases low : (decodePort hdl.base (address - hdl.base)).2 ≤ 7
    · rw [if_pos low] at found
      cases found
      exact ⟨hdl, _, shown, isCtrl, rfl, low, rfl⟩
    · rw [if_neg low] at found
      cases found
  cases shown : handlerAt address with
  | none =>
      rw [shown] at found
      cases found
  | some hdl =>
      rw [shown] at found
      cases hdl with
      | ctrl0 =>
          rw [← shown]
          exact one .ctrl0 nofun shown found
      | ctrl1 =>
          rw [← shown]
          exact one .ctrl1 nofun shown found
      | page => cases found

theorem dmaStep_inb_of_register
    (found : registerAt address = some (ctl, register)) :
    dmaStep dma (.inb address) = (do
      let (val, next) ← (dma.ctl ctl).readReg register
      pure (some val, dma.setCtl ctl next)) := by
  obtain ⟨hdl, port, shown, isCtrl, decoded, low, rfl⟩ :=
    register_cases found
  have served :
      i8237Inb dma hdl.base (address - hdl.base) = (do
        let (val, next) ← (dma.ctl ctl).readReg port.toNat
        pure (val, dma.setCtl ctl next)) := by
    unfold i8237Inb
    rw [decoded]
    exact if_pos low
  rw [dmaStep_inb_of_ctrl isCtrl shown, served]
  cases (dma.ctl ctl).readReg port.toNat with
  | error stop => rfl
  | ok delivered => rfl

theorem dmaStep_outb_of_register
    (found : registerAt address = some (ctl, register)) :
    dmaStep dma (.outb address val) = (do
      let next ← (dma.ctl ctl).writeReg register val
      pure (none, dma.setCtl ctl next)) := by
  obtain ⟨hdl, port, shown, isCtrl, decoded, low, rfl⟩ :=
    register_cases found
  have served :
      i8237Outb dma hdl.base (address - hdl.base) val = (do
        let next ← (dma.ctl ctl).writeReg port.toNat val
        pure (dma.setCtl ctl next)) := by
    unfold i8237Outb
    rw [decoded]
    exact if_pos low
  rw [dmaStep_outb_of_ctrl isCtrl shown, served]
  cases (dma.ctl ctl).writeReg port.toNat val with
  | error stop => rfl
  | ok delivered => rfl

/-- A register with a place is accessed alone. -/
theorem changesOnly_of_flipflop (dma : Controllers) (flip : Uint32) :
    ChangesOnly dma
      (dma.setCtl ctl
        { dma.ctl ctl with
          flipflop := (dma.ctl ctl).flipflop.setIfInBounds register flip })
      ctl register where
  others := fun _ different => setCtl_other _ different
  page := rfl
  mode := by rw [setCtl_same]
  mask := by rw [setCtl_same]
  flipflop := by
    intro other different
    rw [setCtl_same]
    simp [Ne.symm different]
  regs := by
    refine ⟨0, fun otherRegister otherIndex _ => ?_⟩
    rw [setCtl_same]
    rfl

theorem changesOnly_of_byte (dma : Controllers) (flip : Uint32)
    {reg : Vector Uint8 2} {index : Nat}
    (shown : (dma.ctl ctl).regs.toList[register]? = some reg) :
    ChangesOnly dma
      (dma.setCtl ctl
        { dma.ctl ctl with
          regs :=
            (dma.ctl ctl).regs.setIfInBounds register
              (reg.setIfInBounds index val)
          flipflop := (dma.ctl ctl).flipflop.setIfInBounds register flip })
      ctl register where
  others := fun _ different => setCtl_other _ different
  page := rfl
  mode := by rw [setCtl_same]
  mask := by rw [setCtl_same]
  flipflop := by
    intro other different
    rw [setCtl_same]
    simp [Ne.symm different]
  regs := by
    refine ⟨index, fun otherRegister otherIndex different => ?_⟩
    rw [setCtl_same]
    unfold Ctl.byte
    by_cases same : otherRegister = register
    · have otherByte : index ≠ otherIndex := by
        rintro rfl
        exact different (by rw [same])
      have present : register < (dma.ctl ctl).regs.toList.length :=
        (List.getElem?_eq_some_iff.mp shown).1
      rw [same, shown]
      simp only [Vector.toList_setIfInBounds,
        List.getElem?_set_self present]
      simp [otherByte]
    · simp [Ne.symm same]

/-- The other ports of a controller touch no array by an index. -/
theorem i8237Inb_ne_fault {base port : Uint16}
    (high : ¬ (decodePort base port).2 ≤ 7) :
    i8237Inb dma base port ≠ .error .fault := by
  unfold i8237Inb
  generalize decodePort base port = decoded at high ⊢
  obtain ⟨ctl, port⟩ := decoded
  simp only at high ⊢
  rw [if_neg high]
  by_cases isCommand : port = rCommand
  · rw [if_pos isCommand]
    nofun
  rw [if_neg isCommand]
  by_cases isTen : port = 0x10
  · rw [if_pos isTen]
    nofun
  · rw [if_neg isTen]
    nofun

theorem i8237Outb_ne_fault {base port : Uint16}
    (high : ¬ (decodePort base port).2 ≤ 7) :
    i8237Outb dma base port val ≠ .error .fault := by
  unfold i8237Outb
  generalize decodePort base port = decoded at high ⊢
  obtain ⟨ctl, port⟩ := decoded
  simp only at high ⊢
  rw [if_neg high]
  by_cases isClear : port = wrMasterClear
  · rw [if_pos isClear]
    nofun
  rw [if_neg isClear]
  by_cases isMode : port = wrModeReg
  · rw [if_pos isMode]
    nofun
  rw [if_neg isMode]
  by_cases isMask : port = wrSingleMaskBit
  · rw [if_pos isMask]
    nofun
  rw [if_neg isMask]
  by_cases isReset : port = wFlipflopReset
  · rw [if_pos isReset]
    by_cases positive : 0 < val
    · rw [if_pos positive]
      by_cases whole : val = 0xFF
      · rw [Outcome.assert_of whole]
        nofun
      · rw [Outcome.assert_of_not whole]
        nofun
    · rw [if_neg positive]
      nofun
  · rw [if_neg isReset]
    nofun

/-- A page port has a place unless it is the last one. -/
theorem pageOutb_eq_fault_iff {port : Uint16} :
    i8237PageOutb dma port val = .error .fault ↔ 0xF ≤ port.toNat := by
  unfold i8237PageOutb
  by_cases inside : Indexes 0xF (port.toNat : Int)
  · rw [store_of_indexes inside]
    have upper := inside.2
    exact iff_of_false nofun (by omega)
  · rw [store_eq_fault_iff.mpr inside]
    refine iff_of_true rfl ?_
    by_contra low
    exact inside ⟨by omega, by omega⟩

theorem high_of_registerAt {hdl : Handler} (isCtrl : hdl ≠ .page)
    (shown : handlerAt address = some hdl)
    (none : registerAt address = none) :
    ¬ (decodePort hdl.base (address - hdl.base)).2 ≤ 7 := by
  intro low
  unfold registerAt at none
  rw [shown] at none
  cases hdl with
  | ctrl0 =>
      simp only [if_pos low] at none
      cases none
  | ctrl1 =>
      simp only [if_pos low] at none
      cases none
  | page => exact isCtrl rfl

theorem inb_ne_fault (none : registerAt address = none) :
    dmaStep dma (.inb address) ≠ .error .fault := by
  have ctrl {hdl : Handler} (isCtrl : hdl ≠ .page)
      (shown : handlerAt address = some hdl) :
      dmaStep dma (.inb address) ≠ .error .fault := by
    have served :=
      @i8237Inb_ne_fault dma _ _ (high_of_registerAt isCtrl shown none)
    rw [dmaStep_inb_of_ctrl isCtrl shown]
    cases read : i8237Inb dma hdl.base (address - hdl.base) with
    | error stop =>
        intro faults
        cases faults
        exact served read
    | ok delivered => nofun
  cases shown : handlerAt address with
  | none =>
      rw [(@dmaStep_of_none dma address 0 shown).1]
      nofun
  | some hdl =>
      cases hdl with
      | ctrl0 => exact ctrl (by decide : Handler.ctrl0 ≠ .page) shown
      | ctrl1 => exact ctrl (by decide : Handler.ctrl1 ≠ .page) shown
      | page =>
          rw [dmaStep_inb_of_page shown]
          nofun

theorem outb_ne_fault_iff (none : registerAt address = none) :
    dmaStep dma (.outb address val) ≠ .error .fault ↔
      (handlerAt address = some .page →
        (address - 0x80).toNat < 0xF) := by
  have ctrl {hdl : Handler} (isCtrl : hdl ≠ .page)
      (shown : handlerAt address = some hdl) :
      dmaStep dma (.outb address val) ≠ .error .fault := by
    have served :=
      @i8237Outb_ne_fault dma val _ _
        (high_of_registerAt isCtrl shown none)
    rw [dmaStep_outb_of_ctrl isCtrl shown]
    cases written : i8237Outb dma hdl.base (address - hdl.base) val with
    | error stop =>
        intro faults
        cases faults
        exact served written
    | ok next => nofun
  cases shown : handlerAt address with
  | none =>
      rw [(@dmaStep_of_none dma address val shown).2]
      exact iff_of_true nofun nofun
  | some hdl =>
      cases hdl with
      | ctrl0 =>
          exact iff_of_true
            (ctrl (by decide : Handler.ctrl0 ≠ .page) shown) nofun
      | ctrl1 =>
          exact iff_of_true
            (ctrl (by decide : Handler.ctrl1 ≠ .page) shown) nofun
      | page =>
          have page := @pageOutb_eq_fault_iff dma val (address - 0x80)
          rw [dmaStep_outb_of_page shown]
          refine Iff.trans (not_congr ?_) ((not_congr page).trans ?_)
          · exact Outcome.bind_ok_eq_error_iff
          · rw [Nat.not_le]
            exact ⟨fun inside _ => inside, fun inside => inside rfl⟩

end Access

/-! ## The addresses without a place -/

section Addresses

variable {dma : Controllers} {ctl : Fin 2} {register : Nat}
variable {address : Uint16} {access : DmaAccess}

/-- A handler answers the addresses of its window. -/
theorem window_of_lookup {hdl : Handler}
    (shown : handlerAt address = some hdl) :
    hdl.base.toNat ≤ address.toNat ∧
      address.toNat - hdl.base.toNat ≤ (~~~hdl.mask).toNat := by
  have decoded :=
    decodes_iff.mp (decodes_of_lookup (lookup_of_handlerAt shown))
  rw [entries_base, entries_mask] at decoded
  refine (inWindow_iff_of_decoded (Nat.le_refl 16) ?_).mpr address.isLt
  rw [BitVec.setWidth_eq, BitVec.setWidth_eq]
  exact decoded

/-- The last register of a controller. -/
theorem registerAt_seven_iff :
    (∃ ctl, registerAt address = some (ctl, 7)) ↔ LastRegister address := by
  constructor
  · rintro ⟨ctl, found⟩
    obtain ⟨hdl, port, shown, isCtrl, decoded, -, seven⟩ :=
      register_cases found
    have window := window_of_lookup shown
    cases hdl with
    | ctrl0 =>
        have here := congrArg (fun pair => pair.2.toNat) decoded
        change (address - 0x00).toNat = port.toNat at here
        refine Or.inl (BitVec.eq_of_toNat_eq ?_)
        rw [seven] at here
        bv_omega
    | ctrl1 =>
        have here := congrArg (fun pair => pair.2.toNat) decoded
        change ((address - 0xC0) >>> 1).toNat = port.toNat at here
        rw [seven, BitVec.toNat_ushiftRight,
          Nat.shiftRight_eq_div_pow] at here
        have low : 0xC0 ≤ address.toNat := window.1
        have difference :
            (address - 0xC0).toNat = address.toNat - 0xC0 := by
          bv_omega
        rw [difference] at here
        have either : address.toNat = 0xCE ∨ address.toNat = 0xCF := by
          omega
        rcases either with even | odd
        · exact Or.inr (Or.inl (BitVec.eq_of_toNat_eq even))
        · exact Or.inr (Or.inr (BitVec.eq_of_toNat_eq odd))
    | page => exact absurd rfl isCtrl
  · rintro (rfl | rfl | rfl)
    · exact ⟨0, rfl⟩
    · exact ⟨1, rfl⟩
    · exact ⟨1, rfl⟩

theorem indexes_iff_ne_seven
    (found : registerAt address = some (ctl, register)) :
    Indexes 7 (register : Int) ↔
      ¬ LastRegister address := by
  obtain ⟨-, port, -, -, -, low, rfl⟩ := register_cases found
  have atMost : port.toNat ≤ 7 := low
  rw [← registerAt_seven_iff]
  constructor
  · rintro ⟨-, below⟩ ⟨other, same⟩
    rw [found] at same
    simp only [Option.some.injEq, Prod.mk.injEq] at same
    omega
  · intro different
    refine ⟨by omega, ?_⟩
    by_contra reached
    have seven : port.toNat = 7 := by omega
    exact different ⟨ctl, by rw [found, seven]⟩

/-- The last page port. -/
theorem page_index_iff (shown : handlerAt address = some .page) :
    (address - 0x80).toNat < 0xF ↔ address ≠ 0x8F := by
  have window := window_of_lookup shown
  have low : 0x80 ≤ address.toNat := window.1
  have high : address.toNat - 0x80 ≤ 0xF := window.2
  constructor
  · rintro inside rfl
    exact absurd inside (by decide)
  · intro different
    have other : address.toNat ≠ 0x8F :=
      fun same => different (BitVec.eq_of_toNat_eq same)
    bv_omega

/-- Outside the registers, no access has the address of one. -/
theorem ne_of_registerAt_none (none : registerAt address = none) :
    ¬ LastRegister address := by
  rw [← registerAt_seven_iff]
  rintro ⟨ctl, found⟩
  rw [none] at found
  cases found

theorem isolated_of_none (found : registerAt access.address = none) :
    Isolated dma access := by
  intro ctl register isRegister
  rw [found] at isRegister
  cases isRegister

theorem isolated_of_register {next : Controllers}
    {response : Option Uint8}
    (found : registerAt access.address = some (ctl, register))
    (served : dmaStep dma access = .ok (response, next))
    (only : ChangesOnly dma next ctl register) :
    InBounds dma access ∧ Isolated dma access := by
  constructor
  · unfold InBounds
    rw [served]
    nofun
  · intro otherCtl otherRegister isRegister otherResponse otherNext called
    rw [found] at isRegister
    cases isRegister
    rw [served] at called
    cases called
    exact only

theorem inb_isolated_iff (dma : Controllers) (address : Uint16) :
    InBounds dma (.inb address) ∧ Isolated dma (.inb address) ↔
      ¬ LastRegister address := by
  cases found : registerAt address with
  | none =>
      exact iff_of_true ⟨inb_ne_fault found, isolated_of_none found⟩
        (ne_of_registerAt_none found)
  | some pair =>
      obtain ⟨ctl, register⟩ := pair
      rw [← indexes_iff_ne_seven found]
      have served := @dmaStep_inb_of_register dma _ _ _ found
      by_cases inside : Indexes 7 (register : Int)
      · obtain ⟨val, flip, read⟩ :=
          readReg_of_indexes (dma.ctl ctl) inside
        rw [read] at served
        exact iff_of_true
          (isolated_of_register found served
            (changesOnly_of_flipflop dma flip)) inside
      · rw [readReg_outside _ inside] at served
        exact iff_of_false (fun both => both.1 served) inside

theorem outb_isolated_iff (dma : Controllers) (address : Uint16)
    (val : Uint8) :
    InBounds dma (.outb address val) ∧ Isolated dma (.outb address val) ↔
      ¬ LastRegister address ∧ address ≠ 0x8F := by
  cases found : registerAt address with
  | none =>
      have isolated : Isolated dma (.outb address val) :=
        isolated_of_none found
      have page :
          (handlerAt address = some .page →
              (address - 0x80).toNat < 0xF) ↔ address ≠ 0x8F := by
        constructor
        · rintro inside rfl
          exact absurd (inside rfl) (by decide)
        · intro different shown
          exact (page_index_iff shown).mpr different
      rw [and_iff_left isolated,
        and_iff_right (ne_of_registerAt_none found)]
      exact (outb_ne_fault_iff found).trans page
  | some pair =>
      obtain ⟨ctl, register⟩ := pair
      have notPage : address ≠ 0x8F := by
        rintro rfl
        cases found
      rw [and_iff_left notPage, ← indexes_iff_ne_seven found]
      have served := @dmaStep_outb_of_register dma _ _ _ val found
      by_cases inside : Indexes 7 (register : Int)
      · obtain ⟨reg, index, flip, shown, written⟩ :=
          writeReg_of_indexes (dma.ctl ctl) val inside
        rw [written] at served
        exact iff_of_true
          (isolated_of_register found served
            (changesOnly_of_byte dma flip shown)) inside
      · rw [writeReg_outside _ _ inside] at served
        exact iff_of_false (fun both => both.1 served) inside

/-- An access is in bounds and isolated exactly when it has a place. -/
theorem inBounds_and_isolated_iff :
    InBounds dma access ∧ Isolated dma access ↔ HasPlace access := by
  cases access with
  | inb address => exact inb_isolated_iff dma address
  | outb address val => exact outb_isolated_iff dma address val

/-- Whatever the guest accesses, all indices are in bounds and every register
is programmed alone exactly when no access goes to the last register of a
controller or to the last page port. -/
theorem dma_isolated_iff (dma : Controllers) (inputs : List DmaAccess) :
    StepsMeet dmaStep
        (fun dma access => InBounds dma access ∧ Isolated dma access)
        dma inputs ↔
      StepsMeet dmaStep (fun _ access => HasPlace access) dma inputs :=
  stepsMeet_congr (fun _ _ => trivial)
    (fun _ => inBounds_and_isolated_iff) trivial

/-- A byte for the count register of channel 3. -/
theorem dma_not_always_isolated :
    ¬ StepsMeet dmaStep
      (fun dma access => InBounds dma access ∧ Isolated dma access)
      Controllers.zero [.outb 0x07 0x00] := by
  rintro ⟨⟨bounds, -⟩, -⟩
  exact bounds rfl

end Addresses

/-! ## Programming a channel -/

section Program

variable {dma : Controllers} {ctl : Fin 2} {register : Nat}
variable {address : Uint16} {flip : Uint32}

/-- The next byte for a register is its low byte. -/
def AtLow (dma : Controllers) (ctl : Fin 2) (register : Nat) : Prop :=
  ∃ flip : Uint32,
    (dma.ctl ctl).flipflop.toList[register]? = some flip ∧ flip &&& 1 = 0

/-- The two bytes of a register as a flip-flop orders them. -/
def ordered (flip : Uint32) (first second : Uint8) : Vector Uint8 2 :=
  if flip &&& 1 = 0 then #v[first, second] else #v[second, first]

theorem parity_cases (flip : Uint32) :
    flip &&& 1 = 0 ∧ (flip + 1) &&& 1 = 1 ∨
      flip &&& 1 = 1 ∧ (flip + 1) &&& 1 = 0 := by
  have mask : (1 : Uint32).toNat = 2 ^ 1 - 1 := rfl
  have parity : ∀ count : Uint32,
      (count &&& 1).toNat = count.toNat % 2 := by
    intro count
    rw [BitVec.toNat_and, mask, Nat.and_two_pow_sub_one_eq_mod]
  have next : (flip + 1).toNat = (flip.toNat + 1) % 4294967296 :=
    BitVec.toNat_add flip 1
  have now := parity flip
  have later := parity (flip + 1)
  rcases Nat.mod_two_eq_zero_or_one flip.toNat with even | odd
  · refine Or.inl ⟨BitVec.eq_of_toNat_eq ?_, BitVec.eq_of_toNat_eq ?_⟩
    · change _ = 0
      omega
    · change _ = 1
      omega
  · refine Or.inr ⟨BitVec.eq_of_toNat_eq ?_, BitVec.eq_of_toNat_eq ?_⟩
    · change _ = 1
      omega
    · change _ = 0
      omega

theorem pair_eq (reg : Vector Uint8 2) (flip : Uint32)
    (first second : Uint8) :
    (reg.setIfInBounds (flip &&& 1).toNat first).setIfInBounds
        ((flip + 1) &&& 1).toNat second =
      ordered flip first second := by
  have both : ∀ index, index < 2 → index = 0 ∨ index = 1 := by
    intro index inside
    omega
  rcases parity_cases flip with ⟨now, later⟩ | ⟨now, later⟩
  · rw [ordered, if_pos now, now, later]
    apply Vector.ext
    intro index inside
    rcases both index inside with rfl | rfl
    · simp
    · simp
  · have odd : ¬ flip &&& 1 = 0 := by
      rw [now]
      decide
    rw [ordered, if_neg odd, now, later]
    apply Vector.ext
    intro index inside
    rcases both index inside with rfl | rfl
    · simp
    · simp

/-- Two bytes for a register, in the order of its flip-flop. -/
theorem run_pair (found : registerAt address = some (ctl, register))
    (flips : (dma.ctl ctl).flipflop.toList[register]? = some flip)
    (first second : Uint8) :
    ∃ after,
      run dmaStep dma [.outb address first, .outb address second] =
          .ok ([none, none], after) ∧
        after.page = dma.page ∧
        after.ctl ctl =
          { dma.ctl ctl with
            regs :=
              (dma.ctl ctl).regs.setIfInBounds register
                (ordered flip first second)
            flipflop :=
              (dma.ctl ctl).flipflop.setIfInBounds register
                (flip + 1 + 1) } := by
  have inside : register < 7 := lt_of_getElem? flips
  obtain ⟨reg, regFound⟩ :
      ∃ reg, (dma.ctl ctl).regs.toList[register]? = some reg :=
    ⟨_, List.getElem?_eq_getElem (by rwa [Vector.length_toList])⟩
  let half : Ctl :=
    { dma.ctl ctl with
      regs :=
        (dma.ctl ctl).regs.setIfInBounds register
          (reg.setIfInBounds (flip &&& 1).toNat first)
      flipflop := (dma.ctl ctl).flipflop.setIfInBounds register (flip + 1) }
  let full : Ctl :=
    { dma.ctl ctl with
      regs :=
        (dma.ctl ctl).regs.setIfInBounds register
          (ordered flip first second)
      flipflop :=
        (dma.ctl ctl).flipflop.setIfInBounds register (flip + 1 + 1) }
  have firstWritten : (dma.ctl ctl).writeReg register first = .ok half :=
    writeReg_eq regFound flips first
  have secondWritten : half.writeReg register second = .ok full := by
    have halfReg :
        half.regs.toList[register]? =
          some (reg.setIfInBounds (flip &&& 1).toNat first) :=
      getElem?_stored _ inside _
    have halfFlip : half.flipflop.toList[register]? = some (flip + 1) :=
      getElem?_stored _ inside _
    rw [writeReg_eq halfReg halfFlip second, pair_eq,
      Vector.setIfInBounds_setIfInBounds,
      Vector.setIfInBounds_setIfInBounds]
  let middle := dma.setCtl ctl half
  let after := middle.setCtl ctl full
  have firstStep :
      dmaStep dma (.outb address first) = .ok (none, middle) := by
    rw [dmaStep_outb_of_register found, firstWritten]
    rfl
  have secondStep :
      dmaStep middle (.outb address second) = .ok (none, after) := by
    rw [dmaStep_outb_of_register found, setCtl_same, secondWritten]
    rfl
  exact ⟨after, run_cons firstStep (run_one secondStep), rfl,
    setCtl_same full⟩

/-- From its low byte on, a register gets the bytes as they come. -/
theorem run_pair_low (found : registerAt address = some (ctl, register))
    (atLow : AtLow dma ctl register) (low high : Uint8) :
    ∃ after,
      run dmaStep dma [.outb address low, .outb address high] =
          .ok ([none, none], after) ∧
        after.page = dma.page ∧
        (after.ctl ctl).regs =
          (dma.ctl ctl).regs.setIfInBounds register #v[low, high] ∧
        ∀ other, other ≠ register → AtLow dma ctl other →
          AtLow after ctl other := by
  obtain ⟨flip, flips, even⟩ := atLow
  obtain ⟨after, ran, page, ctlAfter⟩ := run_pair found flips low high
  refine ⟨after, ran, page, ?_, ?_⟩
  · rw [ctlAfter, ordered, if_pos even]
  · intro other different otherLow
    rcases otherLow with ⟨count, shown, low⟩
    refine ⟨count, ?_, low⟩
    rw [ctlAfter, Vector.toList_setIfInBounds,
      List.getElem?_set_ne (Ne.symm different)]
    exact shown

/-- The page, the address and the count of channel 2 make up the destination
and the length of a transfer. -/
theorem program_channel2 (address : AtLow dma 0 4) (count : AtLow dma 0 5)
    (page low high countLow countHigh : Uint8) :
    ∃ after,
      run dmaStep dma
          [.outb 0x81 page, .outb 0x04 low, .outb 0x04 high,
            .outb 0x05 countLow, .outb 0x05 countHigh] =
          .ok (List.replicate 5 none, after) ∧
        after.dma.destOff =
          (page.setWidth 32 <<< 16) ||| (high.setWidth 32 <<< 8) |||
            low.setWidth 32 ∧
        after.dma.count =
          (countHigh.setWidth 32 <<< 8) ||| countLow.setWidth 32 := by
  let paged : Controllers :=
    { dma with page := dma.page.setIfInBounds 1 page }
  have pageStep : dmaStep dma (.outb 0x81 page) = .ok (none, paged) := rfl
  obtain ⟨addressed, addressRan, addressPage, addressRegs, addressLow⟩ :=
    @run_pair_low paged 0 4 0x04 (by decide) address low high
  obtain ⟨after, countRan, countPage, countRegs, -⟩ :=
    @run_pair_low addressed 0 5 0x05 (by decide)
      (addressLow 5 (by decide) count) countLow countHigh
  have ran := run_append addressRan countRan
  have regs : (after.dma.ctl[0]).regs =
      ((dma.ctl 0).regs.setIfInBounds 4 #v[low, high]).setIfInBounds 5
        #v[countLow, countHigh] := by
    have first : after.dma.ctl[0] = (after.ctl 0).toDmaCtl := by
      simp [Controllers.dma]
    rw [first, countRegs, addressRegs]
  have pages : after.dma.page = dma.page.setIfInBounds 1 page :=
    countPage.trans addressPage
  refine ⟨after,
    run_cons pageStep ran, ?_, ?_⟩
  · unfold Dma.destOff
    simp [regs, pages]
  · unfold Dma.count
    simp [regs]

end Program

end Kvmulate.I8237
