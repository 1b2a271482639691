import Kvmulate.Lib.Decode
import Kvmulate.Pci.Functions

/-!
# The identity of the PCI functions

The fields by which the guest recognizes a function, under the writes that the
guest can make.
-/

namespace Kvmulate.Pci

open DeviceLib

def ataIdentity : Identity := ⟨0xF00D, 0xDEAD, ataClass, 0x00⟩

def vgaIdentity : Identity := ⟨0x1234, 0x1111, vgaClass, 0x00⟩

structure IdentityKept (sys : PciSystem) : Prop where
  vga : (sys.bus.object .vga).identity = vgaIdentity
  ata : (sys.bus.object .ata).identity = ataIdentity

/-- Where the bytes of the identity are. -/
def identityOffsets : List Nat := [0, 1, 2, 3, 8, 9, 10, 11, 14]

/-- A dword stored at the register leaves the identity as it is. -/
def PciDev.Spares (dev : PciDev) (reg : Int) (val : Uint32) : Prop :=
  ∀ offset : Nat, offset ∈ identityOffsets → reg ≤ offset →
    offset < reg + 4 →
      (leBytes 4 val).getD (offset - reg).toNat 0 = dev.conf offset

/-- A dword that goes to the disk controller leaves the identity there as it
is. -/
def SparesIdentity (sys : PciSystem) : ConfigWrite → Prop
  | .outb _ _ => True
  | .outw _ _ => True
  | .outl port val =>
      port ≠ 0 → sys.bus.state.configspace = 1 →
        getDevice sys.bus = some .ata →
          (sys.bus.object .ata).Spares (sys.bus.reg (port.setWidth 16)) val

/-! ## Stores -/

section Store

variable {dev next : PciDev} {reg : Int}

theorem word_eq_iff {high low other another : Uint8} :
    (high ++ low : Uint16) = other ++ another ↔
      high = other ∧ low = another :=
  append_eq_append_iff

theorem dword_eq_iff {third second first zeroth : Uint8}
    {three two one zero : Uint8} :
    (third ++ second ++ first ++ zeroth : Uint32) =
        three ++ two ++ one ++ zero ↔
      ((third = three ∧ second = two) ∧ first = one) ∧ zeroth = zero := by
  refine append_eq_append_iff.trans (and_congr_left' ?_)
  exact append_eq_append_iff.trans (and_congr_left' append_eq_append_iff)

theorem identity_eq_iff :
    next.identity = dev.identity ↔
      ∀ offset ∈ identityOffsets, next.conf offset = dev.conf offset := by
  unfold PciDev.identity
  rw [Identity.mk.injEq]
  simp only [word_eq_iff, dword_eq_iff, identityOffsets,
    List.forall_mem_cons]
  constructor
  · rintro ⟨⟨h1, h0⟩, ⟨h3, h2⟩, ⟨⟨⟨h11, h10⟩, h9⟩, h8⟩, h14⟩
    exact ⟨h0, h1, h2, h3, h8, h9, h10, h11, h14,
      fun _ member => absurd member List.not_mem_nil⟩
  · rintro ⟨h0, h1, h2, h3, h8, h9, h10, h11, h14, -⟩
    exact ⟨⟨h1, h0⟩, ⟨h3, h2⟩, ⟨⟨⟨h11, h10⟩, h9⟩, h8⟩, h14⟩

theorem identityOffset_le {offset : Nat}
    (member : offset ∈ identityOffsets) : offset ≤ 14 := by
  revert offset
  decide

/-- Inside the device, a store replaces the bytes from the register on. -/
theorem conf_of_storeConf {bytes : List Uint8}
    (done : dev.storeConf reg bytes = .ok next)
    (high : reg + bytes.length ≤ confSize) (offset : Nat) :
    next.conf offset =
      if reg ≤ offset ∧ offset < reg + bytes.length then
        bytes.getD (offset - reg).toNat 0
      else dev.conf offset := by
  unfold PciDev.storeConf at done
  obtain ⟨_, guarded, rest⟩ := Outcome.bind_eq_ok_iff.mp done
  have low : -3 ≤ reg := Outcome.guard_eq_ok_iff.mp guarded
  obtain ⟨raw, stored, built⟩ := Outcome.bind_eq_ok_iff.mp rest
  cases built
  have inside : (3 + reg).toNat + bytes.length ≤ 3 + confSize := by omega
  have found := getElem?_of_storeList stored inside (3 + offset)
  change raw.toList.getD (3 + offset) 0 = _
  rw [List.getD_eq_getElem?_getD, found]
  by_cases hit : reg ≤ offset ∧ offset < reg + bytes.length
  · have index : 3 + offset - (3 + reg).toNat = (offset - reg).toNat := by
      omega
    rw [if_pos hit, if_pos (by omega), index, List.getD_eq_getElem?_getD]
  · rw [if_neg hit, if_neg (by omega)]
    exact (List.getD_eq_getElem?_getD).symm

theorem exists_storeConf {bytes : List Uint8} (low : -3 ≤ reg)
    (high : reg + bytes.length ≤ confSize) :
    ∃ next, dev.storeConf reg bytes = .ok next := by
  obtain ⟨raw, stored⟩ :=
    @exists_storeList_of_le _ _ dev.raw (3 + reg).toNat bytes (by omega)
  refine ⟨{ dev with raw := raw }, ?_⟩
  unfold PciDev.storeConf
  rw [Outcome.guard_of low, Outcome.ok_bind, stored]
  rfl

/-- Behind the identity, a store leaves it alone. -/
theorem identity_of_storeConf {bytes : List Uint8}
    (done : dev.storeConf reg bytes = .ok next) (behind : 14 < reg)
    (high : reg + bytes.length ≤ confSize) :
    next.identity = dev.identity := by
  rw [identity_eq_iff]
  intro offset member
  have bound := identityOffset_le member
  rw [conf_of_storeConf done high, if_neg (by omega)]

/-- A dword keeps the identity exactly when it spares it. -/
theorem identity_of_storeConf_dword {val : Uint32}
    (done : dev.storeConf reg (leBytes 4 val) = .ok next)
    (high : reg + 4 ≤ confSize) :
    next.identity = dev.identity ↔ dev.Spares reg val := by
  have length : (leBytes 4 val).length = 4 := by
    simp [leBytes]
  have found := conf_of_storeConf done (by rw [length]; exact high)
  rw [length] at found
  rw [identity_eq_iff]
  unfold PciDev.Spares
  constructor
  · intro same offset member lower upper
    have kept := same offset member
    rwa [found, if_pos ⟨lower, by omega⟩] at kept
  · intro spares offset member
    rw [found]
    by_cases hit : reg ≤ offset ∧ offset < reg + 4
    · exact (if_pos hit).trans (spares offset member hit.1 hit.2)
    · exact if_neg hit

theorem spares_of_behind {val : Uint32} (behind : 14 < reg) :
    dev.Spares reg val := by
  intro offset member lower _
  have bound := identityOffset_le member
  omega

/-! ## The callbacks -/

theorem pciataWritel_spares {val : Uint32} (low : -3 ≤ reg)
    (high : reg + 4 ≤ confSize) :
    ∃ next, pciataWritel dev reg val = .ok next ∧
      (next.identity = dev.identity ↔ dev.Spares reg val) := by
  have length (word : Uint32) : (leBytes 4 word).length = 4 := by
    simp [leBytes]
  have stored (old : PciDev) (word : Uint32) :=
    @exists_storeConf old reg (leBytes 4 word) low
      (by rw [length]; exact high)
  unfold pciataWritel
  by_cases sizing : reg = cfgRegBar0 ∧ val = 0xFFFFFFFF
  · obtain ⟨rfl, rfl⟩ := sizing
    have behind : 14 < cfgRegBar0 := by decide
    obtain ⟨sized, first⟩ := stored dev
      ((0xFFFFFF0 : Uint32) ||| ((0 : Uint32) <<< 1) |||
        ((1 : Uint32) <<< 0))
    obtain ⟨next, second⟩ := stored sized 0
    rw [if_pos ⟨rfl, rfl⟩, first, Outcome.ok_bind]
    refine ⟨next, second, iff_of_true ?_ (spares_of_behind behind)⟩
    exact (identity_of_storeConf second behind (by decide)).trans
      (identity_of_storeConf first behind (by decide))
  · rw [if_neg sizing]
    by_cases bar : reg = cfgRegBar1 ∨ reg = cfgRegBar2 ∨
        reg = cfgRegBar3 ∨ reg = cfgRegBar4 ∨ reg = cfgRegBar5 ∨
          reg = cfgRegExprom
    · have behind : 14 < reg := by
        unfold cfgRegBar1 cfgRegBar2 cfgRegBar3 cfgRegBar4 cfgRegBar5
          cfgRegExprom at bar
        omega
      obtain ⟨next, done⟩ := stored dev 0
      rw [if_pos bar]
      refine ⟨next, done, iff_of_true ?_ (spares_of_behind behind)⟩
      exact identity_of_storeConf done behind (by rw [length]; exact high)
    · obtain ⟨next, done⟩ := stored dev val
      rw [if_neg bar]
      exact ⟨next, done, identity_of_storeConf_dword done high⟩

/-- The VGA ROM has no register below its base addresses. -/
theorem vgaromWritel_identity {rom mapped : VgaRom} {val : Uint32}
    (done : vgaromWritel dev rom reg val = .ok (next, mapped)) :
    next.identity = dev.identity := by
  unfold vgaromWritel at done
  by_cases bar : reg = cfgRegBar0 ∨ reg = cfgRegBar1 ∨
      reg = cfgRegBar2 ∨ reg = cfgRegBar3 ∨ reg = cfgRegBar4 ∨
        reg = cfgRegBar5
  · rw [if_pos bar] at done
    have range : 14 < reg ∧ reg < 0x30 := by
      unfold cfgRegBar0 cfgRegBar1 cfgRegBar2 cfgRegBar3 cfgRegBar4
        cfgRegBar5 at bar
      omega
    obtain ⟨stored, first, built⟩ := Outcome.bind_eq_ok_iff.mp done
    cases built
    refine identity_of_storeConf first range.1 ?_
    change reg + 1 ≤ 304
    omega
  · rw [if_neg bar] at done
    have behind : 14 < cfgRegExprom := by decide
    by_cases sizing : reg = cfgRegExprom ∧ val = 0xFFFFF800
    · rw [if_pos sizing] at done
      obtain ⟨stored, first, built⟩ := Outcome.bind_eq_ok_iff.mp done
      cases built
      exact identity_of_storeConf first behind (by decide)
    · rw [if_neg sizing] at done
      by_cases exprom : reg = cfgRegExprom
      · rw [if_pos exprom, exprom] at done
        obtain ⟨stored, first, built⟩ := Outcome.bind_eq_ok_iff.mp done
        cases built
        exact identity_of_storeConf first behind (by
          simp [leBytes, cfgRegExprom, confSize])
      · rw [if_neg exprom] at done
        cases done

end Store

/-! ## The handlers of the bus -/

section Handlers

variable {Ref : Type} {bus after : PciBus Ref} {port : Uint16}

/-- The buses differ in the address at most. -/
structure SameFunctions (bus after : PciBus Ref) : Prop where
  dev : after.dev = bus.dev
  object : after.object = bus.object

theorem sameFunctions_of_callDevice
    (done : bus.callDevice port bus = .done after) :
    SameFunctions bus after := by
  unfold PciBus.callDevice at done
  cases found : getDevice bus with
  | none =>
      rw [found] at done
      cases done
      exact ⟨rfl, rfl⟩
  | some device =>
      rw [found] at done
      cases done

theorem sameFunctions_of_pciOutb {val : Uint8}
    (done : pciOutb bus port val = .ok (.done after)) :
    SameFunctions bus after := by
  unfold pciOutb at done
  rcases Outcome.of_ite_eq_ok done with ⟨-, address⟩ | ⟨-, data⟩
  · rcases Outcome.of_ite_eq_ok address with ⟨-, index⟩ | ⟨-, aborted⟩
    · cases index
      exact ⟨rfl, rfl⟩
    · cases aborted
  · exact sameFunctions_of_callDevice (Except.ok.inj data)

theorem sameFunctions_of_pciOutw
    (done : pciOutw bus port = .ok (.done after)) :
    SameFunctions bus after := by
  unfold pciOutw at done
  rcases Outcome.of_ite_eq_ok done with ⟨-, aborted⟩ | ⟨-, data⟩
  · cases aborted
  · cases found : getDevice bus with
    | none =>
        rw [found] at data
        cases data
        exact ⟨rfl, rfl⟩
    | some device =>
        rw [found] at data
        obtain ⟨_, -, called⟩ := Outcome.bind_eq_ok_iff.mp data
        cases called

theorem sameFunctions_of_pciOutl {val : Uint32}
    (done : pciOutl bus port val = .ok (.done after)) :
    SameFunctions bus after := by
  unfold pciOutl at done
  rcases Outcome.of_ite_eq_ok done with ⟨-, address⟩ | ⟨-, data⟩
  · cases address
    exact ⟨rfl, rfl⟩
  · obtain ⟨_, -, called⟩ := Outcome.bind_eq_ok_iff.mp data
    exact sameFunctions_of_callDevice (Except.ok.inj called)

theorem pciOutl_call_iff {val : Uint32} {device : Ref} {reg : Int} :
    pciOutl bus port val = .ok (.call device reg) ↔
      port ≠ 0 ∧ bus.state.configspace = 1 ∧
        getDevice bus = some device ∧ reg = bus.reg port := by
  unfold pciOutl
  by_cases address : port = 0
  · rw [if_pos address]
    refine iff_of_false ?_ (fun data => data.1 address)
    intro called
    cases called
  · rw [if_neg address]
    by_cases ready : bus.state.configspace = 1
    · rw [Outcome.assert_of ready]
      change Except.ok (bus.callDevice port bus) = _ ↔ _
      unfold PciBus.callDevice
      cases found : getDevice bus with
      | none => simp
      | some other =>
          constructor
          · intro called
            cases called
            exact ⟨address, ready, rfl, rfl⟩
          · rintro ⟨-, -, same, rfl⟩
            cases same
            rfl
    · rw [Outcome.assert_of_not ready]
      refine iff_of_false ?_ (fun data => ready data.2.1)
      intro called
      cases called

end Handlers

/-! ## One write -/

section Step

variable {sys next : PciSystem} {port : Uint16}

theorem IdentityKept.setDev (kept : IdentityKept sys)
    {function : PciFunction} {dev : PciDev}
    (same : dev.identity = (sys.bus.object function).identity) :
    IdentityKept (sys.setDev function dev) := by
  cases function with
  | vga => exact ⟨same.trans kept.vga, kept.ata⟩
  | ata => exact ⟨kept.vga, same.trans kept.ata⟩

/-- A handler keeps the identities if the callback does that it ends with. -/
theorem IdentityKept.finish (kept : IdentityKept sys)
    {reply : Outcome (Reply PciFunction (PciBus PciFunction))}
    {callback : PciFunction → Int → Outcome PciSystem}
    (own : ∀ {bus}, reply = .ok (.done bus) → SameFunctions sys.bus bus)
    (called : ∀ {function reg after},
      reply = .ok (.call function reg) →
        callback function reg = .ok after → IdentityKept after)
    (done : sys.finish reply callback = .ok next) : IdentityKept next := by
  obtain ⟨shown, replied, rest⟩ := Outcome.bind_eq_ok_iff.mp done
  cases shown with
  | done bus =>
      cases rest
      have same := (own replied).object
      constructor
      · change (bus.object .vga).identity = _
        rw [same]
        exact kept.vga
      · change (bus.object .ata).identity = _
        rw [same]
        exact kept.ata
  | call function reg =>
      exact called replied rest

theorem IdentityKept.writeb (kept : IdentityKept sys) {val : Uint8}
    {function : PciFunction} {reg : Int}
    (done : sys.writeb val function reg = .ok next) :
    IdentityKept next := by
  cases function with
  | vga =>
      obtain ⟨dev, written, built⟩ := Outcome.bind_eq_ok_iff.mp done
      obtain ⟨_, -, same⟩ := Outcome.bind_eq_ok_iff.mp written
      cases same
      cases built
      exact kept.setDev rfl
  | ata =>
      cases done
      exact kept.setDev rfl

theorem IdentityKept.writew (kept : IdentityKept sys) {val : Uint16}
    {function : PciFunction} {reg : Int}
    (done : sys.writew val function reg = .ok next) :
    IdentityKept next := by
  cases function with
  | vga =>
      cases done
      exact kept.setDev rfl
  | ata =>
      cases done
      exact kept.setDev rfl

theorem IdentityKept.writel_vga (kept : IdentityKept sys) {val : Uint32}
    {reg : Int} (done : sys.writel val .vga reg = .ok next) :
    IdentityKept next := by
  obtain ⟨⟨dev, rom⟩, written, built⟩ := Outcome.bind_eq_ok_iff.mp done
  cases built
  have after := kept.setDev (vgaromWritel_identity written)
  exact ⟨after.vga, after.ata⟩

/-- The data ports reach from three bytes before the configuration space on. -/
theorem reg_range (bus : PciBus PciFunction) {port : BitVec 3}
    (data : port ≠ 0) :
    -3 ≤ bus.reg (port.setWidth 16) ∧
      bus.reg (port.setWidth 16) + 4 ≤ confSize := by
  have index := bus.state.index.isLt
  have upper := port.isLt
  have lower : 0 < port.toNat := by
    rw [Nat.pos_iff_ne_zero]
    exact fun zero => data (BitVec.eq_of_toNat_eq zero)
  have same : (port.setWidth 16).toNat = port.toNat := by
    rw [BitVec.toNat_setWidth]
    omega
  unfold PciBus.reg confSize
  rw [same]
  omega

theorem setWidth_ne_zero {port : BitVec 3} :
    port.setWidth 16 ≠ 0 ↔ port ≠ 0 := by
  revert port
  decide

/-- One write keeps the identities exactly when it spares that of the disk
controller. -/
theorem configWrite_spares (kept : IdentityKept sys)
    (write : ConfigWrite) :
    SparesIdentity sys write ↔
      ∀ response next, configWrite sys write = .ok (response, next) →
        IdentityKept next := by
  cases write with
  | outb port val =>
      refine iff_of_true trivial fun response next done => ?_
      obtain ⟨after, finished, built⟩ := Outcome.bind_eq_ok_iff.mp done
      cases built
      exact kept.finish sameFunctions_of_pciOutb (fun _ => kept.writeb) finished
  | outw port val =>
      refine iff_of_true trivial fun response next done => ?_
      obtain ⟨after, finished, built⟩ := Outcome.bind_eq_ok_iff.mp done
      cases built
      exact kept.finish sameFunctions_of_pciOutw (fun _ => kept.writew) finished
  | outl port val =>
      constructor
      · intro spares response next done
        obtain ⟨after, finished, built⟩ := Outcome.bind_eq_ok_iff.mp done
        cases built
        refine kept.finish sameFunctions_of_pciOutl ?_ finished
        intro function reg after replied called
        obtain ⟨data, ready, selected, rfl⟩ :=
          pciOutl_call_iff.mp replied
        cases function with
        | vga => exact kept.writel_vga called
        | ata =>
            have port := setWidth_ne_zero.mp data
            have range := reg_range sys.bus port
            obtain ⟨dev, written, same⟩ :=
              @pciataWritel_spares (sys.bus.object .ata) _ val range.1
                range.2
            obtain ⟨other, again, built⟩ :=
              Outcome.bind_eq_ok_iff.mp called
            cases built
            rw [written] at again
            cases again
            exact kept.setDev (same.mpr (spares port ready selected))
      · intro keeps data ready selected
        have range := reg_range sys.bus data
        obtain ⟨dev, written, same⟩ :=
          @pciataWritel_spares (sys.bus.object .ata) _ val range.1 range.2
        have replied :=
          (@pciOutl_call_iff _ sys.bus _ val .ata _).mpr
            ⟨setWidth_ne_zero.mpr data, ready, selected, rfl⟩
        have done :
            configWrite sys (.outl port val) =
              .ok ((), sys.setDev .ata dev) := by
          simp only [configWrite, PciSystem.finish, replied,
            Outcome.ok_bind, PciSystem.writel, written,
            Outcome.pure_eq_ok]
        exact same.mp ((keeps _ _ done).ata.trans kept.ata.symm)

end Step

/-! ## Runs -/

/-- What the devices set up is what the guest finds first. -/
theorem exists_devicesRegisterAll :
    ∃ start, devicesRegisterAll = .ok start ∧ IdentityKept start := by
  have seen :
      devicesRegisterAll.map (fun sys =>
        ((sys.bus.object .vga).identity, (sys.bus.object .ata).identity)) =
          .ok (vgaIdentity, ataIdentity) := by
    decide +kernel
  obtain ⟨start, started, parts⟩ := Outcome.map_eq_ok_iff.mp seen
  simp only [Prod.mk.injEq] at parts
  exact ⟨start, started, parts.1, parts.2⟩

/-- The functions keep their identities in the runs that spare that of the
disk controller. -/
theorem identity_kept_iff (writes : List ConfigWrite) :
    ∃ start, devicesRegisterAll = .ok start ∧ IdentityKept start ∧
      (Throughout configWrite IdentityKept start writes ↔
        StepsMeet configWrite SparesIdentity start writes) := by
  obtain ⟨start, started, kept⟩ := exists_devicesRegisterAll
  refine ⟨start, started, kept, throughout_iff_of_exact ?_ kept⟩
  intro state input holds
  exact configWrite_spares holds input

/-- A dword at register 0 replaces the vendor and the device of the disk
controller. -/
theorem identity_not_kept :
    ∃ start, devicesRegisterAll = .ok start ∧
      ¬ Throughout configWrite IdentityKept start
        [.outl 0 0x80000800, .outl 4 0] := by
  have seen :
      (devicesRegisterAll >>= fun start =>
        (run configWrite start [.outl 0 0x80000800, .outl 4 0]).map
          fun ran => (ran.2.bus.object .ata).identity) =
        .ok { ataIdentity with vendorid := 0, deviceid := 0 } := by
    decide +kernel
  obtain ⟨start, started, ended⟩ := Outcome.bind_eq_ok_iff.mp seen
  refine ⟨start, started, fun always => ?_⟩
  obtain ⟨reached, ran, overwritten⟩ := Outcome.map_eq_ok_iff.mp ended
  have rest : Throughout configWrite IdentityKept reached.2 [] :=
    Throughout.of_append (by rwa [List.append_nil]) ran
  have last : IdentityKept reached.2 := rest
  have kept := last.ata.symm.trans overwritten
  exact absurd kept (by decide)

end Kvmulate.Pci
