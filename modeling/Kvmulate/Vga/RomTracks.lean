import Kvmulate.Io.Parts
import Kvmulate.Pci.ReadBack
import Kvmulate.Vga.Rom

/-!
# The expansion ROM register

The register of the VGA function and the base of the MMIO device behind it,
after every run of port accesses, from the writes to the register alone.
-/

namespace Kvmulate.Vga

open DeviceLib Kvmulate.Io Kvmulate.Pci

/-! ## The writes to the register -/

/-- The dword that the access hands to the VGA function for its expansion ROM
register. -/
def expromWritten (sys : PciSystem) : IoAccess → Option Uint32
  | .outl port val =>
      if pciHandler.decodes port then
        match pciOutl sys.bus (port - pciHandler.base) val with
        | .ok (.call .vga reg) =>
            if reg = cfgRegExprom then some val else none
        | _ => none
      else none
  | _ => none

def recordExprom (sys : PciSystem) (access : IoAccess) (_ : IoData)
    (writes : List Uint32) : List Uint32 :=
  writes ++ (expromWritten sys access).toList

/-- The writes that move the window. -/
def Enables (val : Uint32) : Bool :=
  val &&& 1 ≠ 0 ∧ val ≠ 0xC0001

/-- The register after the writes. -/
def expromValue (writes : List Uint32) : Uint32 :=
  match writes.getLast? with
  | none => 0xC0000
  | some val => if val = 0xFFFFF800 then 0xFFFE0000 else val

/-- The base of the window after the writes. -/
def windowBase (writes : List Uint32) : Uint32 :=
  match (writes.filter Enables).getLast? with
  | none => 0xFFAA0000
  | some val => val &&& ~~~1

theorem expromValue_append (writes : List Uint32) (val : Uint32) :
    expromValue (writes ++ [val]) =
      if val = 0xFFFFF800 then 0xFFFE0000 else val := by
  unfold expromValue
  rw [List.getLast?_append]
  rfl

theorem windowBase_append (writes : List Uint32) (val : Uint32) :
    windowBase (writes ++ [val]) =
      if Enables val then val &&& ~~~1 else windowBase writes := by
  unfold windowBase
  rw [List.filter_append]
  by_cases enables : Enables val = true
  · rw [if_pos enables, List.filter_cons_of_pos enables,
      List.filter_nil, List.getLast?_append]
    rfl
  · rw [if_neg enables, List.filter_cons_of_neg enables,
      List.filter_nil, List.append_nil]

/-! ## The state after the writes -/

/-- The VGA function is found first, and its register and its window are as
the writes say. -/
structure RomTracks (sys : PciSystem) (writes : List Uint32) : Prop where
  slot : sys.bus.dev.toList[0]? = some (some .vga)
  address : (sys.bus.object .vga).address = ⟨0, 0, 0⟩
  exprom : (sys.bus.object .vga).readConf 32 cfgRegExprom =
    .ok (expromValue writes)
  base : sys.rom.base = windowBase writes

/-! ## One access -/

/-- The lowest bit of a word. -/
theorem toNat_of_odd {val : Uint32} (odd : val &&& 1 ≠ 0) :
    val.toNat = (val &&& ~~~1).toNat + 1 := by
  have parts := toNat_and_add_and_not val 1
  have upper := toNat_and_le_right val 1
  have one : (1 : Uint32).toNat = 1 := rfl
  have positive : (val &&& 1).toNat ≠ 0 := by
    intro zero
    exact odd (BitVec.eq_of_toNat_eq zero)
  omega

/-- The window moves to every base but 0xC0000. -/
theorem remapped_base (rom : VgaRom) (val : Uint32) :
    (if val &&& 1 ≠ 0 then remapBios rom (val &&& ~~~1) else rom).base =
      if Enables val then val &&& ~~~1 else rom.base := by
  unfold Enables remapBios
  by_cases odd : val &&& 1 ≠ 0
  · have split := toNat_of_odd odd
    have refused : val &&& ~~~1 = 0xC0000 ↔ val = 0xC0001 := by
      rw [← BitVec.toNat_inj, ← BitVec.toNat_inj, split]
      exact (Nat.add_right_cancel_iff).symm
    rw [if_pos odd]
    by_cases free : val = 0xC0001
    · rw [if_neg (not_not.mpr (refused.mpr free)), if_neg (by simp [free])]
    · rw [if_pos (fun base => free (refused.mp base)),
        if_pos (by simpa using ⟨odd, free⟩)]
  · rw [if_neg odd, if_neg (by simpa using fun other => absurd other odd)]

section Step

variable {sys next : PciSystem} {writes : List Uint32}

theorem RomTracks.vga_found (tracks : RomTracks sys writes)
    (selected : sys.bus.state.toAddress = ⟨0, 0, 0⟩) :
    Pci.getDevice sys.bus = some .vga := by
  have slot := tracks.slot
  unfold Pci.getDevice
  cases slots : sys.bus.dev.toList with
  | nil =>
      rw [slots] at slot
      cases slot
  | cons first rest =>
      rw [slots] at slot
      cases slot
      rw [List.findSome?_cons, Option.filter_some, tracks.address, selected]
      rfl

/-- A write of the VGA function. -/
theorem RomTracks.writel_vga (tracks : RomTracks sys writes) {val : Uint32}
    {reg : Int} (done : sys.writel val .vga reg = .ok next) :
    RomTracks next
      (writes ++ if reg = cfgRegExprom then [val] else []) := by
  obtain ⟨⟨dev, rom⟩, written, built⟩ := Outcome.bind_eq_ok_iff.mp done
  cases built
  unfold vgaromWritel at written
  by_cases bar : reg = cfgRegBar0 ∨ reg = cfgRegBar1 ∨
      reg = cfgRegBar2 ∨ reg = cfgRegBar3 ∨ reg = cfgRegBar4 ∨
        reg = cfgRegBar5
  · rw [if_pos bar] at written
    have range : 0 ≤ reg ∧ reg + 1 ≤ cfgRegExprom := by
      unfold cfgRegBar0 cfgRegBar1 cfgRegBar2 cfgRegBar3 cfgRegBar4
        cfgRegBar5 at bar
      unfold cfgRegExprom
      omega
    have other : reg ≠ cfgRegExprom := by omega
    obtain ⟨stored, first, built⟩ := Outcome.bind_eq_ok_iff.mp written
    cases built
    rw [if_neg other, List.append_nil]
    refine ⟨tracks.slot, ?_, ?_, tracks.base⟩
    · exact (address_of_storeConf first range.1).trans tracks.address
    · exact (readConf_of_storeConf_before first range.2
        (by decide)).trans tracks.exprom
  · rw [if_neg bar] at written
    by_cases exprom : reg = cfgRegExprom
    · rw [if_pos exprom]
      by_cases sizing : val = 0xFFFFF800
      · rw [if_pos ⟨exprom, sizing⟩] at written
        obtain ⟨stored, first, built⟩ := Outcome.bind_eq_ok_iff.mp written
        cases built
        have even : ¬ Enables val = true := by
          rw [sizing]
          decide
        refine ⟨tracks.slot, ?_, ?_, ?_⟩
        · exact (address_of_storeConf first (by decide)).trans
            tracks.address
        · rw [expromValue_append, if_pos sizing]
          exact readConf_of_storeConf first (by decide)
        · rw [windowBase_append, if_neg even]
          exact tracks.base
      · rw [if_neg (fun both => sizing both.2), if_pos exprom] at written
        obtain ⟨stored, first, built⟩ := Outcome.bind_eq_ok_iff.mp written
        cases built
        rw [exprom] at first
        refine ⟨tracks.slot, ?_, ?_, ?_⟩
        · exact (address_of_storeConf first (by decide)).trans
            tracks.address
        · rw [expromValue_append, if_neg sizing]
          exact readConf_of_storeConf first (by decide)
        · rw [windowBase_append, ← tracks.base]
          exact remapped_base sys.rom val
    · rw [if_neg (fun both => exprom both.1), if_neg exprom] at written
      cases written

/-- A handler that ends in the bus itself. -/
theorem RomTracks.setBus (tracks : RomTracks sys writes)
    {bus : PciBus PciFunction} (dev : bus.dev = sys.bus.dev)
    (object : bus.object = sys.bus.object) :
    RomTracks { sys with bus := bus } writes := by
  refine ⟨?_, ?_, ?_, tracks.base⟩
  · rw [dev]
    exact tracks.slot
  · rw [object]
    exact tracks.address
  · rw [object]
    exact tracks.exprom

/-- The disk controller keeps its own registers only. -/
theorem RomTracks.setDev_ata (tracks : RomTracks sys writes)
    (dev : PciDev) : RomTracks (sys.setDev .ata dev) writes :=
  ⟨tracks.slot, tracks.address, tracks.exprom, tracks.base⟩

theorem RomTracks.setDev_vga (tracks : RomTracks sys writes) :
    RomTracks (sys.setDev .vga (sys.bus.object .vga)) writes :=
  ⟨tracks.slot, tracks.address, tracks.exprom, tracks.base⟩

theorem RomTracks.writeb (tracks : RomTracks sys writes) {val : Uint8}
    {function : PciFunction} {reg : Int}
    (done : sys.writeb val function reg = .ok next) :
    RomTracks next writes := by
  cases function with
  | vga =>
      obtain ⟨dev, written, built⟩ := Outcome.bind_eq_ok_iff.mp done
      obtain ⟨_, -, same⟩ := Outcome.bind_eq_ok_iff.mp written
      cases same
      cases built
      exact tracks.setDev_vga
  | ata =>
      cases done
      exact tracks.setDev_ata _

theorem RomTracks.writew (tracks : RomTracks sys writes) {val : Uint16}
    {function : PciFunction} {reg : Int}
    (done : sys.writew val function reg = .ok next) :
    RomTracks next writes := by
  cases function with
  | vga =>
      cases done
      exact tracks.setDev_vga
  | ata =>
      cases done
      exact tracks.setDev_ata _

theorem RomTracks.writel_ata (tracks : RomTracks sys writes)
    {val : Uint32} {reg : Int}
    (done : sys.writel val .ata reg = .ok next) :
    RomTracks next writes := by
  obtain ⟨dev, -, built⟩ := Outcome.bind_eq_ok_iff.mp done
  cases built
  exact tracks.setDev_ata _

theorem RomTracks.finish (tracks : RomTracks sys writes)
    {reply : Outcome (Reply PciFunction (PciBus PciFunction))}
    {callback : PciFunction → Int → Outcome PciSystem}
    {later : List Uint32}
    (own : ∀ {bus}, reply = .ok (.done bus) →
      bus.dev = sys.bus.dev ∧ bus.object = sys.bus.object ∧
        later = writes)
    (called : ∀ {function reg after},
      reply = .ok (.call function reg) →
        callback function reg = .ok after → RomTracks after later)
    (done : sys.finish reply callback = .ok next) :
    RomTracks next later := by
  obtain ⟨shown, replied, rest⟩ := Outcome.bind_eq_ok_iff.mp done
  cases shown with
  | done bus =>
      cases rest
      obtain ⟨dev, object, rfl⟩ := own replied
      exact tracks.setBus dev object
  | call function reg =>
      exact called replied rest

theorem lookup_pciTable (port : Uint16) :
    lookupHandler pciTable port =
      if pciHandler.decodes port then some pciHandler else none := by
  change [pciHandler].find? _ = _
  rw [List.find?_singleton]

theorem recordExprom_outl {port : Uint16} {val : Uint32} {data : IoData} :
    recordExprom sys (.outl port val) data writes =
      writes ++
        (if pciHandler.decodes port then
          match pciOutl sys.bus (port - pciHandler.base) val with
          | .ok (.call .vga reg) =>
              if reg = cfgRegExprom then some val else none
          | _ => none
        else none).toList := rfl

/-- Where the bus does not decode the port, nothing is recorded. -/
theorem recordExprom_of_unclaimed {access : IoAccess} {data : IoData}
    (unclaimed : lookupHandler pciTable access.port = none) :
    recordExprom sys access data writes = writes := by
  cases access with
  | outl port val =>
      change lookupHandler pciTable port = none at unclaimed
      have undecoded : ¬ pciHandler.decodes port = true := by
        intro decoded
        rw [lookup_pciTable, if_pos decoded] at unclaimed
        cases unclaimed
      rw [recordExprom_outl, if_neg undecoded]
      exact List.append_nil writes
  | outb port val => exact List.append_nil writes
  | outw port val => exact List.append_nil writes
  | inb port => exact List.append_nil writes
  | inw port => exact List.append_nil writes
  | inl port => exact List.append_nil writes

/-- A dword, where it is for the register. -/
theorem RomTracks.outl (tracks : RomTracks sys writes) {port : Uint16}
    {val : Uint32} (decoded : pciHandler.decodes port = true)
    (written : sys.finish (pciOutl sys.bus (port - pciHandler.base) val)
      (sys.writel val) = .ok next) :
    RomTracks next (recordExprom sys (.outl port val) .none writes) := by
  rw [recordExprom_outl, if_pos decoded]
  apply tracks.finish _ _ written
  · intro bus replied
    have same := sameFunctions_of_pciOutl replied
    rw [replied]
    exact ⟨same.dev, same.object, List.append_nil writes⟩
  · intro function reg after replied stored
    rw [replied]
    cases function with
    | vga =>
        have tracked := tracks.writel_vga stored
        by_cases exprom : reg = cfgRegExprom
        · rw [if_pos exprom] at tracked
          simp only [if_pos exprom]
          exact tracked
        · rw [if_neg exprom] at tracked
          simp only [if_neg exprom]
          exact tracked
    | ata =>
        have tracked := tracks.writel_ata stored
        simpa using tracked

/-- What the bus does to the register and the window. -/
theorem RomTracks.serve (tracks : RomTracks sys writes)
    {access : IoAccess} {data : IoData}
    (decoded : pciHandler.decodes access.port = true)
    (served : pciHandler.serve sys access = .ok (data, next)) :
    RomTracks next (recordExprom sys access data writes) := by
  have read : recordExprom sys access data writes = writes →
      next = sys → RomTracks next (recordExprom sys access data writes) := by
    intro none same
    rw [none, same]
    exact tracks
  cases access with
  | outb port val =>
      rcases Outcome.bind_eq_ok_iff.mp served with ⟨after, called, built⟩
      cases built
      change RomTracks next (writes ++ [])
      rw [List.append_nil]
      exact tracks.finish
        (fun replied =>
          have same := sameFunctions_of_pciOutb replied
          ⟨same.dev, same.object, rfl⟩)
        (fun _ => tracks.writeb) called
  | outw port val =>
      rcases Outcome.bind_eq_ok_iff.mp served with ⟨after, called, built⟩
      cases built
      change RomTracks next (writes ++ [])
      rw [List.append_nil]
      exact tracks.finish
        (fun replied =>
          have same := sameFunctions_of_pciOutw replied
          ⟨same.dev, same.object, rfl⟩)
        (fun _ => tracks.writew) called
  | outl port val =>
      rcases Outcome.bind_eq_ok_iff.mp served with ⟨after, called, built⟩
      cases built
      exact tracks.outl decoded called
  | inb port =>
      rcases Outcome.bind_eq_ok_iff.mp served with ⟨reply, called, built⟩
      cases built
      exact read (List.append_nil writes) (finishRead_state called)
  | inw port =>
      rcases Outcome.bind_eq_ok_iff.mp served with ⟨reply, called, built⟩
      cases built
      exact read (List.append_nil writes) (finishRead_state called)
  | inl port =>
      rcases Outcome.bind_eq_ok_iff.mp served with ⟨reply, called, built⟩
      cases built
      exact read (List.append_nil writes) (finishRead_state called)

/-- What one access does to the register and the window. -/
theorem RomTracks.access (tracks : RomTracks sys writes)
    {access : IoAccess} {data : IoData}
    (done : ioAccess pciTable sys access = .ok (data, next)) :
    RomTracks next (recordExprom sys access data writes) := by
  by_cases decoded : pciHandler.decodes access.port = true
  · have found : lookupHandler pciTable access.port = some pciHandler := by
      rw [lookup_pciTable, if_pos decoded]
    rw [ioAccess_of_lookup found] at done
    exact tracks.serve decoded done
  · have unclaimed : lookupHandler pciTable access.port = none := by
      rw [lookup_pciTable, if_neg decoded]
    rw [recordExprom_of_unclaimed unclaimed,
      state_of_unclaimed unclaimed done]
    exact tracks

end Step

theorem romTracks_start :
    ∃ start, devicesRegisterAll = .ok start ∧ RomTracks start [] := by
  have seen :
      devicesRegisterAll.map (fun sys =>
        (sys.bus.dev.toList[0]?, (sys.bus.object .vga).address,
          (sys.bus.object .vga).readConf 32 cfgRegExprom,
          sys.rom.base)) =
        .ok (some (some .vga), ⟨0, 0, 0⟩, .ok 0xC0000, 0xFFAA0000) := by
    decide +kernel
  obtain ⟨start, started, parts⟩ := Outcome.map_eq_ok_iff.mp seen
  simp only [Prod.mk.injEq] at parts
  exact ⟨start, started, parts.1, parts.2.1, parts.2.2.1, parts.2.2.2⟩

/-- What every run of port accesses does to the register and the window. -/
theorem romTracks_of_run {start final : PciSystem}
    {accesses : List IoAccess} {responses : List IoData}
    {writes later : List Uint32} (tracks : RomTracks start writes)
    (ran : run (observed (ioAccess pciTable) recordExprom) (start, writes)
      accesses = .ok (responses, (final, later))) :
    RomTracks final later := by
  have preserved : ∀ {pair access data next},
      RomTracks (pair : PciSystem × List Uint32).1 pair.2 →
        observed (ioAccess pciTable) recordExprom pair access =
            .ok (data, next) →
          RomTracks next.1 next.2 := by
    intro pair access data next before done
    obtain ⟨called, same⟩ := observed_eq_ok_iff.mp done
    rw [same]
    exact before.access called
  exact @run_invariant _ _ _ _
    (fun pair : PciSystem × List Uint32 => RomTracks pair.1 pair.2)
    preserved _ _ _ _ tracks ran

end Kvmulate.Vga
