import Kvmulate.Pci.Bus

/-!
# Registration of PCI devices

The table holds the devices in the order of their registration, and a device
answers at the number of a slot that holds it.
-/

namespace Kvmulate.Pci

open DeviceLib

variable {Ref : Type} {pci : PciBus Ref} {refs : List Ref} {ref : Ref}

/-! ## One registration -/

@[simp]
theorem PciDev.address_setAddress (dev : PciDev) (address : Address) :
    (dev.setAddress address).address = address := by
  have size : 3 + confSize = 307 := rfl
  simp [PciDev.address, PciDev.byte, PciDev.setAddress, size,
    List.getD_eq_getElem?_getD]

def slotAddress (slot : Nat) : Address := ⟨0, BitVec.ofNat 8 slot, 0⟩

theorem slotAddress_injective {first second : Nat}
    (firstSmall : first < maxFpb) (secondSmall : second < maxFpb)
    (same : slotAddress first = slotAddress second) : first = second := by
  have numbers := congrArg (fun address => address.dev.toNat) same
  simp only [slotAddress, BitVec.toNat_ofNat] at numbers
  unfold maxFpb at firstSmall secondSmall
  omega

/-- The bus holds the devices, in the order of their registration. -/
structure Holds (pci : PciBus Ref) (refs : List Ref) : Prop where
  table : pci.dev.toList = slots maxFpb refs
  devs : pci.devs = refs.length
  bound : refs.length ≤ maxFpb
  addressed : ∀ ref ∈ refs, ∃ slot, refs[slot]? = some ref ∧
    (pci.object ref).address = slotAddress slot

theorem holds_init (object : Ref → PciDev) :
    Holds (x86PciInit object) [] where
  table := Vector.toList_replicate
  devs := rfl
  bound := Nat.zero_le _
  addressed := fun _ member => absurd member List.not_mem_nil

theorem Holds.setState (holds : Holds pci refs) (state : ConfigState) :
    Holds { pci with state := state } refs :=
  ⟨holds.table, holds.devs, holds.bound, holds.addressed⟩

/-- Two devices never share an address. -/
theorem Holds.apart (holds : Holds pci refs) :
    ∀ first ∈ refs, ∀ second ∈ refs,
      (pci.object first).address = (pci.object second).address →
        first = second := by
  intro first firstMember second secondMember same
  obtain ⟨firstSlot, firstAt, firstAddress⟩ :=
    holds.addressed first firstMember
  obtain ⟨secondSlot, secondAt, secondAddress⟩ :=
    holds.addressed second secondMember
  have bound := holds.bound
  have firstInside := (List.getElem?_eq_some_iff.mp firstAt).1
  have secondInside := (List.getElem?_eq_some_iff.mp secondAt).1
  rw [firstAddress, secondAddress] at same
  have slot : firstSlot = secondSlot :=
    slotAddress_injective (by omega) (by omega) same
  rw [slot, secondAt] at firstAt
  exact (Option.some.inj firstAt).symm

theorem Holds.getDevice_eq_some_iff (holds : Holds pci refs) :
    getDevice pci = some ref ↔
      ref ∈ refs ∧ (pci.object ref).address = pci.state.toAddress := by
  unfold getDevice
  rw [holds.table, findSome?_slots]
  exact find?_key_eq_some_iff holds.apart

section Register

variable [DecidableEq Ref]

theorem register_bus {bus : Int} {newdev : Option Ref}
    (other : bus ≠ -1) : pciRegisterDev pci bus newdev = .error .abort := by
  unfold pciRegisterDev
  rw [Outcome.assert_of_not other]
  rfl

theorem register_null : pciRegisterDev pci (-1) none = .error .abort := by
  unfold pciRegisterDev
  rw [Outcome.assert_of rfl]
  rfl

/-- A full table turns a device away. -/
theorem Holds.register_full (holds : Holds pci refs)
    (full : maxFpb ≤ refs.length) :
    pciRegisterDev pci (-1) (some ref) = .ok (-1, pci) := by
  unfold pciRegisterDev
  rw [Outcome.assert_of rfl, Outcome.ok_bind, holds.table]
  dsimp only
  rw [findIdx?_slots_full full]
  rfl

/-- A device takes the slot behind the others, and its number. -/
theorem Holds.register (holds : Holds pci refs)
    (room : refs.length < maxFpb) (ref : Ref) :
    ∃ next, pciRegisterDev pci (-1) (some ref) = .ok (0, next) ∧
      Holds next (refs ++ [ref]) ∧
        (next.object ref).address = slotAddress refs.length ∧
          ∀ other, other ≠ ref → next.object other = pci.object other := by
  let next : PciBus Ref :=
    { pci.setObject ref
        ((pci.object ref).setAddress (slotAddress pci.devs)) with
      devs := pci.devs + 1
      dev := pci.dev.setIfInBounds refs.length (some ref) }
  have done : pciRegisterDev pci (-1) (some ref) = .ok (0, next) := by
    unfold pciRegisterDev
    rw [Outcome.assert_of rfl, Outcome.ok_bind, holds.table]
    dsimp only
    rw [findIdx?_slots room]
    rfl
  have here : (next.object ref).address = slotAddress refs.length := by
    change (if ref = ref then _ else _ : PciDev).address = _
    rw [if_pos rfl, PciDev.address_setAddress, holds.devs]
  have others (other : Ref) (different : other ≠ ref) :
      next.object other = pci.object other :=
    if_neg different
  have table : next.dev.toList = slots maxFpb (refs ++ [ref]) := by
    have list :
        next.dev.toList = pci.dev.toList.set refs.length (some ref) :=
      Vector.toList_setIfInBounds
    rw [list, holds.table, set_slots room]
  have length : (refs ++ [ref]).length = refs.length + 1 := by
    rw [List.length_append, List.length_singleton]
  have last : (refs ++ [ref])[refs.length]? = some ref := by
    rw [List.getElem?_append_right (Nat.le_refl _), Nat.sub_self]
    rfl
  refine ⟨next, done, ⟨table, ?_, by omega, ?_⟩, here, others⟩
  · rw [length, ← holds.devs]
  · intro other member
    by_cases same : other = ref
    · rw [same]
      exact ⟨refs.length, last, here⟩
    · have earlier : other ∈ refs := by
        simpa [same] using member
      obtain ⟨slot, found, address⟩ := holds.addressed other earlier
      have inside := (List.getElem?_eq_some_iff.mp found).1
      refine ⟨slot, ?_, ?_⟩
      · rw [List.getElem?_append_left inside]
        exact found
      · rw [others other same]
        exact address

/-! ## Sequences of registrations -/

/-- What a registration that returns has done. -/
structure Added (pci : PciBus Ref) (refs : List Ref) (ref : Ref)
    (next : PciBus Ref) : Prop where
  room : refs.length < maxFpb
  holds : Holds next (refs ++ [ref])
  address : (next.object ref).address = slotAddress refs.length
  others : ∀ other, other ≠ ref → next.object other = pci.object other

theorem Holds.register_cases {bus result : Int} {newdev : Option Ref}
    {next : PciBus Ref} (holds : Holds pci refs)
    (done : pciRegisterDev pci bus newdev = .ok (result, next)) :
    ∃ ref, bus = -1 ∧ newdev = some ref ∧
      (result = 0 ∧ Added pci refs ref next ∨
        maxFpb ≤ refs.length ∧ result = -1 ∧ next = pci) := by
  by_cases allowed : bus = -1
  · subst allowed
    cases newdev with
    | none =>
        rw [register_null] at done
        cases done
    | some ref =>
        refine ⟨ref, rfl, rfl, ?_⟩
        by_cases room : refs.length < maxFpb
        · obtain ⟨added, called, held, address, others⟩ :=
            holds.register room ref
          rw [called] at done
          cases done
          exact Or.inl ⟨rfl, room, held, address, others⟩
        · rw [holds.register_full (by omega)] at done
          cases done
          exact Or.inr ⟨by omega, rfl, rfl⟩
  · rw [register_bus allowed] at done
    cases done

abbrev Registration (Ref : Type) := Int × Option Ref

def register : Call (PciBus Ref) (Registration Ref) Int :=
  fun pci registration =>
    pciRegisterDev pci registration.1 registration.2

/-- The devices whose registration returned 0. -/
def assigned (registrations : List (Registration Ref))
    (results : List Int) : List Ref :=
  (registrations.zip results).filterMap fun (registration, result) =>
    if result = 0 then registration.2 else none

theorem holds_run {registrations : List (Registration Ref)}
    {results : List Int} {final : PciBus Ref} (holds : Holds pci refs)
    (ran : run register pci registrations = .ok (results, final)) :
    Holds final (refs ++ assigned registrations results) := by
  induction registrations generalizing pci refs results with
  | nil =>
      cases ran
      simpa [assigned] using holds
  | cons registration rest inductionHypothesis =>
      obtain ⟨result, next, others, called, ranRest, rfl⟩ :=
        run_cons_eq_ok_iff.mp ran
      obtain ⟨bus, newdev⟩ := registration
      obtain ⟨ref, rfl, rfl, ⟨rfl, added⟩ | ⟨-, rfl, rfl⟩⟩ :=
        holds.register_cases called
      · have tail := inductionHypothesis added.holds ranRest
        rw [List.append_assoc] at tail
        exact tail
      · exact inductionHypothesis holds ranRest

end Register

/-! ## Addresses that the guest can reach -/

/-- The device answers after some dword was written to CONFIG_ADDRESS. -/
def Reachable (pci : PciBus Ref) (ref : Ref) : Prop :=
  ∃ val latched, pciOutl pci 0 val = .ok (.done latched) ∧
    getDevice latched = some ref

theorem latch_slot :
    ∀ slot < 32,
      (latch (BitVec.ofNat 32 (2048 * slot))).toAddress =
        slotAddress slot := by
  decide

theorem latch_dev_lt (val : Uint32) : (latch val).dev.toNat < 32 := by
  have mask : ((val >>> 11) &&& 0x1F).toNat ≤ 0x1F := by
    rw [BitVec.toNat_and]
    exact Nat.and_le_right
  change (((val >>> 11) &&& 0x1F).setWidth 8).toNat < 32
  rw [BitVec.toNat_setWidth]
  omega

/-- CONFIG_ADDRESS has five bits for the number of a device. -/
theorem Added.reachable_iff {next : PciBus Ref}
    (added : Added pci refs ref next) :
    Reachable next ref ↔ refs.length < 32 := by
  have member : ref ∈ refs ++ [ref] := by simp
  constructor
  · rintro ⟨val, latched, done, found⟩
    cases done
    have selected :=
      (added.holds.setState _).getDevice_eq_some_iff.mp found
    have same : slotAddress refs.length = (latch val).toAddress := by
      rw [← added.address]
      exact selected.2
    have number :
        (BitVec.ofNat 8 refs.length).toNat = (latch val).dev.toNat :=
      congrArg (fun address => address.dev.toNat) same
    have small := latch_dev_lt val
    have room := added.room
    rw [BitVec.toNat_ofNat] at number
    unfold maxFpb at room
    omega
  · intro small
    refine ⟨BitVec.ofNat 32 (2048 * refs.length), _, rfl, ?_⟩
    rw [(added.holds.setState _).getDevice_eq_some_iff]
    refine ⟨member, ?_⟩
    change (next.object ref).address =
      (latch (BitVec.ofNat 32 (2048 * refs.length))).toAddress
    rw [added.address, latch_slot _ small]

section Sequence

variable [DecidableEq Ref]

/-- A call that returns 0 gives a new address that can be reached, one that
returns -1 leaves the table and the addresses alone. -/
def Assigns (pci : PciBus Ref) (registration : Registration Ref) : Prop :=
  ∀ result next, register pci registration = .ok (result, next) →
    ∀ ref, registration.2 = some ref →
      (result = 0 →
        (∀ earlier, some earlier ∈ pci.dev.toList →
          (next.object earlier).address ≠ (next.object ref).address) ∧
        Reachable next ref) ∧
      (result = -1 →
        next.dev = pci.dev ∧
        ∀ earlier, some earlier ∈ pci.dev.toList →
          (next.object earlier).address = (pci.object earlier).address)

theorem assigns_iff (holds : Holds pci refs) (fresh : ref ∉ refs)
    (few : refs.length ≤ 32) :
    Assigns pci (-1, some ref) ↔ refs.length < 32 := by
  have room : refs.length < maxFpb := by
    unfold maxFpb
    omega
  obtain ⟨next, called, held, address, others⟩ := holds.register room ref
  have added : Added pci refs ref next := ⟨room, held, address, others⟩
  constructor
  · intro assigns
    have reachable := ((assigns 0 next called ref rfl).1 rfl).2
    exact added.reachable_iff.mp reachable
  · intro small result other returned new same
    cases same
    have done := called.symm.trans returned
    cases done
    refine ⟨fun _ => ⟨?_, added.reachable_iff.mpr small⟩, fun turned => ?_⟩
    · intro earlier occupied equal
      rw [holds.table, mem_slots_iff] at occupied
      have same : earlier = ref :=
        held.apart earlier (List.mem_append_left _ occupied) ref
          (by simp) equal
      rw [same] at occupied
      exact fresh occupied
    · cases turned

/-- The two assertions of a registration let it pass. -/
def Accepted (registration : Registration Ref) : Bool :=
  registration.1 == -1 && registration.2.isSome

theorem register_of_not_accepted {registration : Registration Ref}
    (rejected : Accepted registration = false) :
    register pci registration = .error .abort := by
  obtain ⟨bus, newdev⟩ := registration
  by_cases allowed : bus = -1
  · subst allowed
    cases newdev with
    | none => exact register_null
    | some ref => cases rejected
  · exact register_bus allowed

theorem stepsMeet_assigns_iff {registrations : List (Registration Ref)}
    (holds : Holds pci refs) (few : refs.length ≤ 32)
    (distinct : (refs ++ registrations.filterMap Prod.snd).Nodup) :
    StepsMeet register Assigns pci registrations ↔
      refs.length + (registrations.takeWhile Accepted).length ≤ 32 := by
  induction registrations generalizing pci refs with
  | nil =>
      exact iff_of_true trivial few
  | cons registration rest inductionHypothesis =>
      cases accepted : Accepted registration with
      | false =>
          have aborts := @register_of_not_accepted _ pci _ _ accepted
          rw [List.takeWhile_cons, accepted]
          refine iff_of_true ⟨fun result next called => ?_,
            fun result next called => ?_⟩ few
          · rw [aborts] at called
            cases called
          · rw [aborts] at called
            cases called
      | true =>
          obtain ⟨bus, newdev⟩ := registration
          obtain ⟨rfl, ref, rfl⟩ :
              bus = -1 ∧ ∃ ref, newdev = some ref := by
            simpa [Accepted, Option.isSome_iff_exists] using accepted
          have fresh : ref ∉ refs := by
            intro member
            exact (List.nodup_append.mp distinct).2.2 ref member ref
              List.mem_cons_self rfl
          rw [List.takeWhile_cons, accepted]
          change _ ↔
            refs.length + ((rest.takeWhile Accepted).length + 1) ≤ 32
          have assigns := assigns_iff holds fresh few
          by_cases small : refs.length < 32
          · obtain ⟨next, called, held, -, -⟩ :=
              holds.register (by unfold maxFpb; omega) ref
            have tail := @inductionHypothesis next (refs ++ [ref]) held
              (by rw [List.length_append, List.length_singleton]; omega)
              (by
                rw [List.append_assoc]
                exact distinct)
            rw [List.length_append, List.length_singleton] at tail
            rw [stepsMeet_cons_iff called, assigns, tail]
            omega
          · refine iff_of_false (fun both => small (assigns.mp both.1)) ?_
            omega

/-- Registrations of distinct devices give addresses that the guest can reach
exactly as long as there are at most 32 of them. -/
theorem registrations_assign_iff (object : Ref → PciDev)
    (registrations : List (Registration Ref))
    (distinct : (registrations.filterMap Prod.snd).Nodup) :
    StepsMeet register Assigns (x86PciInit object) registrations ↔
      (registrations.takeWhile Accepted).length ≤ 32 := by
  rw [stepsMeet_assigns_iff (holds_init object) (Nat.zero_le _) distinct,
    List.length_nil, Nat.zero_add]

/-- The two devices of the machine. -/
theorem registrations_assign_two :
    StepsMeet register Assigns
      (x86PciInit fun _ : Bool => ⟨Vector.replicate _ 0, true⟩)
      [(-1, some false), (-1, some true)] :=
  (registrations_assign_iff _ _ (by decide)).mpr (by decide)

/-- The device that is registered after 32 others is out of reach. -/
theorem registrations_do_not_assign :
    ¬ StepsMeet register Assigns
      (x86PciInit fun _ : Nat => ⟨Vector.replicate _ 0, true⟩)
      ((List.range 33).map fun ref => (-1, some ref)) := by
  rw [stepsMeet_assigns_iff (holds_init _) (Nat.zero_le _) (by decide)]
  decide

end Sequence

end Kvmulate.Pci
