import Kvmulate.Pci.ReadBack

/-!
# The widths of a configuration read

The bytes, the words and the dword at CONFIG_DATA are read by three handlers
and through three callbacks of the selected device.
-/

namespace Kvmulate.Pci

open DeviceLib

namespace PciSystem

def inb (sys : PciSystem) (port : Uint16) : Outcome (Uint8 × PciSystem) :=
  sys.finishRead (pciInb sys.bus port) sys.readb

def inw (sys : PciSystem) (port : Uint16) : Outcome (Uint16 × PciSystem) :=
  sys.finishRead (pciInw sys.bus port) sys.readw

def inl (sys : PciSystem) (port : Uint16) : Outcome (Uint32 × PciSystem) :=
  sys.finishRead (pciInl sys.bus port) sys.readl

def outb (sys : PciSystem) (port : Uint16) (val : Uint8) :
    Outcome PciSystem :=
  sys.finish (pciOutb sys.bus port val) (sys.writeb val)

def outl (sys : PciSystem) (port : Uint16) (val : Uint32) :
    Outcome PciSystem :=
  sys.finish (pciOutl sys.bus port val) (sys.writel val)

/-- CONFIG_ADDRESS has been written. -/
def select (sys : PciSystem) (val : Uint32) : PciSystem :=
  { sys with bus := { sys.bus with state := latch val } }

/-- The dword at CONFIG_DATA, its two words and its four bytes are the
same. -/
def WidthCoherent (sys : PciSystem) : Prop :=
  ∃ (dword : Uint32) (low high : Uint16) (b0 b1 b2 b3 : Uint8),
    sys.inl 4 = .ok (dword, sys) ∧
      (sys.inw 4 = .ok (low, sys) ∧ sys.inw 6 = .ok (high, sys) ∧
        leBytes 4 dword = leBytes 2 low ++ leBytes 2 high) ∧
      sys.inb 4 = .ok (b0, sys) ∧ sys.inb 5 = .ok (b1, sys) ∧
        sys.inb 6 = .ok (b2, sys) ∧ sys.inb 7 = .ok (b3, sys) ∧
          leBytes 4 dword = [b0, b1, b2, b3]

/-! ## A device is selected -/

section Present

variable {sys : PciSystem} {function : PciFunction} {width : Nat}

theorem readb_eq (sys : PciSystem) (function : PciFunction) (reg : Int) :
    sys.readb function reg = (sys.bus.object function).readConf 8 reg := by
  cases function with
  | vga => rfl
  | ata => rfl

theorem readw_eq (sys : PciSystem) (function : PciFunction) (reg : Int) :
    sys.readw function reg = (sys.bus.object function).readConf 16 reg := by
  cases function with
  | vga => rfl
  | ata => rfl

theorem readl_eq (sys : PciSystem) (function : PciFunction) (reg : Int) :
    sys.readl function reg = (sys.bus.object function).readConf 32 reg := by
  cases function with
  | vga => rfl
  | ata => rfl

/-- The bytes of the configuration space from the selected register on. -/
def selected (sys : PciSystem) (function : PciFunction) (lane count : Nat) :
    List Uint8 :=
  window (sys.bus.object function).raw.toList
    (3 + sys.bus.state.index.toNat + lane) count

/-- An access that stays in the dword of the register delivers the bytes of
its lanes. -/
theorem finishRead_of_found {lane : Nat} {port : Uint16}
    {absent : BitVec width}
    {callback : PciFunction → Int → Outcome (BitVec width)}
    (found : getDevice sys.bus = some function)
    (uniform : ∀ reg,
      callback function reg =
        (sys.bus.object function).readConf width reg)
    (here : port.toNat = 4 + lane) (inside : lane + width / 8 ≤ 4) :
    sys.finishRead (pure (sys.bus.callDevice port absent)) callback =
      .ok (leValue width (selected sys function lane (width / 8)), sys) := by
  have small := sys.bus.state.index.isLt
  have reg :
      (3 + sys.bus.reg port).toNat =
        3 + sys.bus.state.index.toNat + lane := by
    rw [PciBus.reg, here]
    omega
  have size : 3 + confSize = 307 := rfl
  have high : (3 + sys.bus.reg port).toNat + width / 8 ≤ 3 + confSize := by
    rw [reg, size]
    omega
  have low : -3 ≤ sys.bus.reg port := by
    rw [PciBus.reg]
    omega
  have length :
      (sys.bus.object function).raw.toList.length = 3 + confSize :=
    Vector.length_toList
  have bytes :
      ((sys.bus.object function).raw.toList.drop
          (3 + sys.bus.reg port).toNat).take (width / 8) =
        selected sys function lane (width / 8) := by
    rw [selected, ← reg, window_eq_take (by rw [length]; exact high)]
  have called :
      sys.bus.callDevice port absent =
        .call function (sys.bus.reg port) := by
    rw [PciBus.callDevice, found]
  rw [finishRead, called, Outcome.pure_eq_ok, Outcome.ok_bind]
  dsimp only
  rw [uniform, readConf_of_inside low high, bytes]
  rfl

theorem inl_of_found (found : getDevice sys.bus = some function) :
    sys.inl 4 = .ok (leValue 32 (selected sys function 0 4), sys) :=
  finishRead_of_found found (readl_eq sys function) rfl (by omega)

theorem inw_of_found (found : getDevice sys.bus = some function)
    {port : Uint16} (lane : Nat) (here : port.toNat = 4 + lane)
    (inside : lane + 2 ≤ 4) :
    sys.inw port = .ok (leValue 16 (selected sys function lane 2), sys) := by
  have data : 0x4 ≤ port := by
    bv_omega
  rw [inw, pciInw, if_pos data]
  exact finishRead_of_found found (readw_eq sys function) here inside

theorem inb_of_found (found : getDevice sys.bus = some function)
    {port : Uint16} (lane : Nat) (here : port.toNat = 4 + lane)
    (inside : lane + 1 ≤ 4) :
    sys.inb port = .ok (leValue 8 (selected sys function lane 1), sys) := by
  have data : 0x4 ≤ port := by
    bv_omega
  rw [inb, pciInb, if_pos data]
  exact finishRead_of_found found (readb_eq sys function) here inside

theorem leValue_byte (byte : Uint8) : leValue 8 [byte] = byte := by
  simp [leValue]

theorem widthCoherent_of_found
    (found : getDevice sys.bus = some function) : sys.WidthCoherent := by
  have whole : leBytes 4 (leValue 32 (selected sys function 0 4)) =
      selected sys function 0 4 :=
    leBytes_leValue (Nat.le_refl 32)
  have low : leBytes 2 (leValue 16 (selected sys function 0 2)) =
      selected sys function 0 2 :=
    leBytes_leValue (Nat.le_refl 16)
  have high : leBytes 2 (leValue 16 (selected sys function 2 2)) =
      selected sys function 2 2 :=
    leBytes_leValue (Nat.le_refl 16)
  refine ⟨_, _, _, _, _, _, _, inl_of_found found,
    ⟨inw_of_found found 0 rfl (by omega),
      inw_of_found found 2 rfl (by omega), ?_⟩,
    inb_of_found found 0 rfl (by omega),
    inb_of_found found 1 rfl (by omega),
    inb_of_found found 2 rfl (by omega),
    inb_of_found found 3 rfl (by omega), ?_⟩
  · rw [whole, low, high]
    exact window_add _ _ 2 2
  · rw [whole]
    change _ = [leValue 8 [_], leValue 8 [_], leValue 8 [_], leValue 8 [_]]
    rw [leValue_byte, leValue_byte, leValue_byte, leValue_byte]
    rfl

end Present

/-! ## No device is selected -/

/-- `pci_inl` answers with sixteen ones. -/
theorem not_widthCoherent_of_absent {sys : PciSystem}
    (absent : getDevice sys.bus = none) : ¬ sys.WidthCoherent := by
  intro coherent
  obtain ⟨dword, _, _, _, _, _, b3, whole, -, -, -, -, byte, bytes⟩ :=
    coherent
  have dwordRead : sys.inl 4 = .ok (0xFFFF, sys) := by
    change sys.finishRead (pure (sys.bus.callDevice 4 0xFFFF)) _ = _
    rw [PciBus.callDevice, absent]
    rfl
  have byteRead : sys.inb 7 = .ok (0xFF, sys) := by
    change sys.finishRead (pure (sys.bus.callDevice 7 0xFF)) _ = _
    rw [PciBus.callDevice, absent]
    rfl
  rw [dwordRead] at whole
  rw [byteRead] at byte
  cases whole
  cases byte
  have last : (leBytes 4 (0xFFFF : Uint32))[3]? = some 0xFF := by
    rw [bytes]
    rfl
  exact absurd last (by decide)

end PciSystem

/-- A device is found if one in the table has the address. -/
theorem getDevice_ne_none_iff {Ref : Type} {pci : PciBus Ref} :
    getDevice pci ≠ none ↔
      ∃ ref, some ref ∈ pci.dev.toList ∧
        (pci.object ref).address = pci.state.toAddress := by
  constructor
  · intro found
    cases answer : getDevice pci with
    | none => exact absurd answer found
    | some ref =>
        rcases List.exists_of_findSome?_eq_some answer with
          ⟨slot, present, matched⟩
        rcases Option.filter_eq_some_iff.mp matched with ⟨filled, same⟩
        subst filled
        exact ⟨ref, present, of_decide_eq_true same⟩
  · intro found absent
    rcases found with ⟨ref, present, same⟩
    have missed := List.findSome?_eq_none_iff.mp absent (some ref) present
    exact Option.filter_some_eq_none.mp missed (decide_eq_true same)

/-- For every state of the bus and every value of CONFIG_ADDRESS, the widths
agree exactly if the value selects a device. -/
theorem widthCoherent_iff (sys : PciSystem) (val : Uint32) :
    (sys.select val).WidthCoherent ↔
      ∃ function, some function ∈ sys.bus.dev.toList ∧
        (sys.bus.object function).address = (latch val).toAddress := by
  have selects :
      getDevice (sys.select val).bus ≠ none ↔
        ∃ function, some function ∈ sys.bus.dev.toList ∧
          (sys.bus.object function).address = (latch val).toAddress :=
    getDevice_ne_none_iff
  rw [← selects]
  constructor
  · intro coherent absent
    exact PciSystem.not_widthCoherent_of_absent absent coherent
  · intro present
    cases found : getDevice (sys.select val).bus with
    | none => exact absurd found present
    | some function => exact PciSystem.widthCoherent_of_found found

/-- No device 4 is registered. -/
theorem not_always_widthCoherent :
    ∃ start, devicesRegisterAll = .ok start ∧
      ¬ (start.select 0x80002000).WidthCoherent := by
  have seen :
      devicesRegisterAll.map (fun sys =>
        getDevice (sys.select 0x80002000).bus) = .ok none := by
    decide +kernel
  obtain ⟨start, started, absent⟩ := Outcome.map_eq_ok_iff.mp seen
  exact ⟨start, started, PciSystem.not_widthCoherent_of_absent absent⟩

end Kvmulate.Pci
