import Kvmulate.Lib.Decode
import Kvmulate.Pci.Registration

/-!
# Routing of PCI configuration accesses

Which device an access to the data ports reaches after a dword was written to
CONFIG_ADDRESS.
-/

namespace Kvmulate.Pci

open DeviceLib

/-! ## Accesses -/

inductive Access where
  | inb
  | inw
  | inl
  | outb (val : Uint8)
  | outw (val : Uint16)
  | outl (val : Uint32)
deriving DecidableEq, Repr

section Data

variable {Ref : Type} {α : Type}

/-- The device whose callback ends the handler, and the register. -/
def Reply.callee : Reply Ref α → Option (Ref × Int)
  | .done _ => none
  | .call device reg => some (device, reg)

def callee (pci : PciBus Ref) (port : Uint16) :
    Access → Outcome (Option (Ref × Int))
  | .inb => (pciInb pci port).map Reply.callee
  | .inw => (pciInw pci port).map Reply.callee
  | .inl => (pciInl pci port).map Reply.callee
  | .outb val => (pciOutb pci port val).map Reply.callee
  | .outw _ => (pciOutw pci port).map Reply.callee
  | .outl val => (pciOutl pci port val).map Reply.callee

/-- The access runs a callback of the device. -/
def Reaches (pci : PciBus Ref) (access : Access) (port : Uint16)
    (device : Ref) : Prop :=
  ∃ reg, callee pci port access = .ok (some (device, reg))

def Access.IsOutw : Access → Prop
  | .outw _ => True
  | _ => False

variable {pci : PciBus Ref} {device : Ref} {port : Uint16}

theorem callee_callDevice (absent : α) :
    (pci.callDevice port absent).callee =
      (getDevice pci).map fun device => (device, pci.reg port) := by
  unfold PciBus.callDevice
  cases getDevice pci with
  | none => rfl
  | some device => rfl

theorem not_le_three (data : 4 ≤ port) : ¬ port ≤ 3 := by
  bv_omega

theorem ne_zero_of_data (data : 4 ≤ port) : port ≠ 0 := by
  bv_omega

/-- But for the words written, a data port calls the selected device. -/
theorem callee_of_not_outw (data : 4 ≤ port)
    (ready : pci.state.configspace = 1) {access : Access}
    (other : ¬ access.IsOutw) :
    callee pci port access =
      .ok ((getDevice pci).map fun device => (device, pci.reg port)) := by
  cases access with
  | inb =>
      rw [callee, pciInb, if_pos data]
      exact congrArg Except.ok (callee_callDevice _)
  | inw =>
      rw [callee, pciInw, if_pos data]
      exact congrArg Except.ok (callee_callDevice _)
  | inl =>
      rw [callee, pciInl, if_neg (ne_zero_of_data data), if_pos data]
      exact congrArg Except.ok (callee_callDevice _)
  | outb val =>
      rw [callee, pciOutb, if_neg (not_le_three data)]
      exact congrArg Except.ok (callee_callDevice _)
  | outw val =>
      exact absurd trivial other
  | outl val =>
      rw [callee, pciOutl, if_neg (ne_zero_of_data data),
        Outcome.assert_of ready]
      exact congrArg Except.ok (callee_callDevice _)

/-- A word that is written needs a callback. -/
theorem callee_outw (data : 4 ≤ port) {val : Uint16} {reg : Int} :
    callee pci port (.outw val) = .ok (some (device, reg)) ↔
      (getDevice pci = some device ∧ reg = pci.reg port) ∧
        (pci.object device).writew = true := by
  rw [callee, pciOutw, if_neg (not_le_three data)]
  cases found : getDevice pci with
  | none =>
      simp [Except.map, Reply.callee]
  | some other =>
      by_cases provided : (pci.object other).writew = true
      · simp only [Outcome.assert_of provided, Outcome.ok_bind,
          Outcome.pure_eq_ok, Except.map, Reply.callee, Except.ok.injEq,
          Option.some.injEq, Prod.mk.injEq]
        constructor
        · rintro ⟨rfl, rfl⟩
          exact ⟨⟨rfl, rfl⟩, provided⟩
        · rintro ⟨⟨rfl, rfl⟩, -⟩
          exact ⟨rfl, rfl⟩
      · simp only [Outcome.assert_of_not provided, Outcome.error_bind,
          Except.map, reduceCtorEq, false_iff]
        rintro ⟨⟨same, -⟩, set⟩
        cases same
        exact provided set

/-- A data port reaches the selected device, unless a word is written and the
device has no callback for words. -/
theorem reaches_iff (data : 4 ≤ port)
    (ready : pci.state.configspace = 1) (access : Access) :
    Reaches pci access port device ↔
      getDevice pci = some device ∧
        (access.IsOutw → (pci.object device).writew = true) := by
  unfold Reaches
  cases access with
  | outw val =>
      simp only [callee_outw data]
      constructor
      · rintro ⟨reg, ⟨found, -⟩, set⟩
        exact ⟨found, fun _ => set⟩
      · rintro ⟨found, set⟩
        exact ⟨_, ⟨found, rfl⟩, set trivial⟩
  | _ =>
      rw [callee_of_not_outw data ready id]
      simp [Access.IsOutw]

end Data

/-! ## Addresses -/

/-- Bits 23:16, 15:11 and 10:8 of a dword. -/
def requested (val : Uint32) : Address where
  bus := val.extractLsb' 16 8
  dev := (val.extractLsb' 11 5).setWidth 8
  fn := (val.extractLsb' 8 3).setWidth 8

theorem latch_dev (val : Uint32) :
    (latch val).dev = (requested val).dev := by
  have mask : (0x1F : Uint32).toNat = 2 ^ 5 - 1 := rfl
  apply BitVec.eq_of_toNat_eq
  change (((val >>> 11) &&& 0x1F).setWidth 8).toNat =
    ((val.extractLsb' 11 5).setWidth 8).toNat
  rw [BitVec.toNat_setWidth, BitVec.toNat_setWidth,
    toNat_ushiftRight_and mask, toNat_extractLsb']

theorem latch_fn (val : Uint32) : (latch val).fn = (requested val).fn := by
  have mask : (0x07 : Uint32).toNat = 2 ^ 3 - 1 := rfl
  apply BitVec.eq_of_toNat_eq
  change (((val >>> 8) &&& 0x07).setWidth 8).toNat =
    ((val.extractLsb' 8 3).setWidth 8).toNat
  rw [BitVec.toNat_setWidth, BitVec.toNat_setWidth,
    toNat_ushiftRight_and mask, toNat_extractLsb']

theorem latch_bus_toNat (val : Uint32) :
    (latch val).bus.toNat = val.toNat / 65536 % 16 := by
  have mask : (0x0F : Uint32).toNat = 2 ^ 4 - 1 := rfl
  change (((val >>> 16) &&& 0x0F).setWidth 8).toNat = _
  rw [BitVec.toNat_setWidth, toNat_ushiftRight_and mask]
  omega

/-- The bits of the bus number that are cut off. -/
def busHigh (val : Uint32) : Uint32 := (val >>> 20) &&& 0x0F

theorem requested_bus_toNat (val : Uint32) :
    (requested val).bus.toNat =
      16 * (busHigh val).toNat + (latch val).bus.toNat := by
  have mask : (0x0F : Uint32).toNat = 2 ^ 4 - 1 := rfl
  have high : (busHigh val).toNat = val.toNat / 2 ^ 20 % 2 ^ 4 :=
    toNat_ushiftRight_and mask
  have whole : (requested val).bus.toNat = val.toNat / 2 ^ 16 % 2 ^ 8 :=
    toNat_extractLsb'
  rw [latch_bus_toNat, high, whole]
  omega

theorem latch_eq_requested_iff (val : Uint32) :
    (latch val).toAddress = requested val ↔ busHigh val = 0 := by
  have parts := requested_bus_toNat val
  constructor
  · intro same
    have buses : (latch val).bus = (requested val).bus :=
      congrArg Address.bus same
    rw [buses] at parts
    apply BitVec.eq_of_toNat_eq
    change (busHigh val).toNat = 0
    omega
  · intro zero
    have buses : (latch val).bus = (requested val).bus := by
      apply BitVec.eq_of_toNat_eq
      rw [parts, zero]
      simp
    have address : (latch val).toAddress =
        ⟨(latch val).bus, (latch val).dev, (latch val).fn⟩ := rfl
    rw [address, buses, latch_dev, latch_fn]

/-! ## Routing -/

section Exact

variable {Ref : Type}

/-- After the dword, an access to a data port reaches a device exactly when
the device has the requested address. -/
def RoutesExactly (pci latched : PciBus Ref) (devices : List Ref)
    (val : Uint32) : Prop :=
  ∀ access port, 4 ≤ port → ∀ device,
    Reaches latched access port device ↔
      device ∈ devices ∧ (pci.object device).address = requested val

/-- The bus number is not cut off where that selects a device, and a device
that is selected has a callback for words. -/
def RoutesWhole (pci : PciBus Ref) (devices : List Ref) (val : Uint32) :
    Prop :=
  ∀ device ∈ devices,
    (pci.object device).address = (latch val).toAddress →
      busHigh val = 0 ∧ (pci.object device).writew = true

theorem routesExactly_iff {pci : PciBus Ref} {refs : List Ref}
    (holds : Holds pci refs) {val : Uint32} (enabled : val >>> 31 = 1) :
    RoutesExactly pci { pci with state := latch val } refs val ↔
      RoutesWhole pci refs val := by
  have ready : (latch val).configspace = 1 := enabled
  have selected (device : Ref) :
      getDevice { pci with state := latch val } = some device ↔
        device ∈ refs ∧
          (pci.object device).address = (latch val).toAddress :=
    (holds.setState (latch val)).getDevice_eq_some_iff
  have onBusZero {device : Ref} (member : device ∈ refs) :
      (pci.object device).address.bus = 0 := by
    obtain ⟨slot, -, address⟩ := holds.addressed device member
    rw [address]
    rfl
  constructor
  · intro exactly device member at_
    have reached : Reaches { pci with state := latch val } .inb 4 device :=
      (@reaches_iff Ref _ device 4 (by decide) ready .inb).mpr
        ⟨(selected device).mpr ⟨member, at_⟩, False.elim⟩
    have asked := ((exactly .inb 4 (by decide) device).mp reached).2
    have whole : (latch val).toAddress = requested val :=
      at_.symm.trans asked
    refine ⟨(latch_eq_requested_iff val).mp whole, ?_⟩
    have word :=
      (exactly (.outw 0) 4 (by decide) device).mpr ⟨member, asked⟩
    exact ((@reaches_iff Ref _ device 4 (by decide) ready (.outw 0)).mp
      word).2 trivial
  · intro whole access port data device
    rw [@reaches_iff Ref _ device port data ready access, selected]
    constructor
    · rintro ⟨⟨member, at_⟩, -⟩
      have same :=
        (latch_eq_requested_iff val).mpr (whole device member at_).1
      exact ⟨member, at_.trans same⟩
    · rintro ⟨member, asked⟩
      -- a bus number that is cut off is not 0, and all devices are on bus 0
      have zero : busHigh val = 0 := by
        have parts := requested_bus_toNat val
        rw [← asked, onBusZero member] at parts
        apply BitVec.eq_of_toNat_eq
        change (busHigh val).toNat = 0
        change 0 = _ at parts
        omega
      have at_ : (pci.object device).address = (latch val).toAddress :=
        asked.trans ((latch_eq_requested_iff val).mpr zero).symm
      exact ⟨⟨member, at_⟩, fun _ => (whole device member at_).2⟩

variable [DecidableEq Ref] {object : Ref → PciDev}
variable {registrations : List (Registration Ref)} {results : List Int}
variable {pci : PciBus Ref}

/-- Routing is exact for the dwords that select no device by a bus number cut
off. -/
theorem routing_exact_iff
    (ran : run register (x86PciInit object) registrations =
      .ok (results, pci))
    (val : Uint32) (enabled : val >>> 31 = 1) :
    ∃ latched, pciOutl pci 0 val = .ok (.done latched) ∧
      (RoutesExactly pci latched (assigned registrations results) val ↔
        RoutesWhole pci (assigned registrations results) val) :=
  ⟨_, rfl, routesExactly_iff (holds_run (holds_init object) ran) enabled⟩

end Exact

/-- Bus 0 is addressed as it should be. -/
theorem routing_exact_second :
    ∃ pci latched,
      run register
          (x86PciInit fun _ : Bool => ⟨Vector.replicate _ 0, true⟩)
          [(-1, some false), (-1, some true)] = .ok ([0, 0], pci) ∧
        pciOutl pci 0 0x80000800 = .ok (.done latched) ∧
          (RoutesExactly pci latched [false, true] 0x80000800 ↔
            RoutesWhole pci [false, true] 0x80000800) := by
  obtain ⟨first, firstCalled, firstHolds, -, -⟩ :=
    (holds_init _).register (by decide) false
  obtain ⟨second, secondCalled, -, -, -⟩ :=
    firstHolds.register (by decide) true
  have ran :
      run register
          (x86PciInit fun _ : Bool => ⟨Vector.replicate _ 0, true⟩)
          [(-1, some false), (-1, some true)] = .ok ([0, 0], second) :=
    run_cons firstCalled (run_one secondCalled)
  obtain ⟨latched, done, exact_⟩ :=
    routing_exact_iff ran 0x80000800 (by decide)
  exact ⟨second, latched, ran, done, exact_⟩

/-- The first device answers on bus 16, too. -/
theorem routing_not_exact :
    ∃ pci latched,
      run register
          (x86PciInit fun _ : Unit => ⟨Vector.replicate _ 0, true⟩)
          [(-1, some ())] = .ok ([0], pci) ∧
        pciOutl pci 0 0x80100000 = .ok (.done latched) ∧
          ¬ RoutesExactly pci latched [()] 0x80100000 := by
  obtain ⟨pci, called, holds, address, -⟩ :=
    (holds_init _).register (by decide) ()
  refine ⟨pci, _, run_one called, rfl, ?_⟩
  change ¬ RoutesExactly pci _ ([] ++ [()]) _
  rw [routesExactly_iff holds (by decide)]
  intro whole
  have uncut := (whole () (by decide) address).1
  exact absurd uncut (by decide)

end Kvmulate.Pci
