import Kvmulate.Pci.Widths
import Mathlib.Tactic.IntervalCases

/-!
# CONFIG_ADDRESS as a register

What a dword written to CONFIG_ADDRESS reads back as, and what a byte written
behind it changes.
-/

namespace Kvmulate.Pci

open DeviceLib

/-- The fields that `pci_outl` stores: bit 31 and the low twenty bits. -/
def storedFields (val : Uint32) : Uint32 := val &&& 0x800FFFFF

/-- The dword with another byte at offset 3. -/
def withHighByte (val : Uint32) (byte : Uint8) : Uint32 :=
  (val &&& 0x00FFFFFF) ||| (byte.setWidth 32 <<< 24)

/-- The dword reads back, and a byte written at offset 3 does what the dword
with that byte would. -/
def FaithfulAddress (sys : PciSystem) (val : Uint32) (byte : Uint8) : Prop :=
  ∃ written, sys.outl 0 val = .ok written ∧
    written.inl 0 = .ok (storedFields val, written) ∧
      ∃ next, written.outb 3 byte = .ok next ∧
        written.outl 0 (withHighByte val byte) = .ok next ∧
          next.inl 0 = .ok (storedFields (withHighByte val byte), next)

/-! ## The fields -/

section Fields

variable {sys : PciSystem} {val : Uint32} {byte : Uint8}

theorem outl_address (sys : PciSystem) (val : Uint32) :
    sys.outl 0 val = .ok (sys.select val) := rfl

/-- The fields read back, but for the function number. -/
theorem inl_address (sys : PciSystem) (val : Uint32) :
    (sys.select val).inl 0 =
      .ok (val &&& 0x800FF8FF, sys.select val) := by
  have shown :
      ((latch val).configspace <<< 31) |||
          (((latch val).bus &&& 0x0F).setWidth 32 <<< 16) |||
            (((latch val).dev &&& 0x1F).setWidth 32 <<< 11) |||
              (latch val).index.setWidth 32 =
        val &&& 0x800FF8FF := by
    apply BitVec.eq_of_getLsbD_eq
    intro bit inside
    simp only [latch, BitVec.getLsbD_or, BitVec.getLsbD_shiftLeft,
      BitVec.getLsbD_setWidth, BitVec.getLsbD_and,
      BitVec.getLsbD_ushiftRight]
    interval_cases bit <;> simp
  rw [← shown]
  rfl

theorem and_eq_storedFields_iff :
    val &&& 0x800FF8FF = storedFields val ↔ val &&& 0x700 = 0 := by
  have split :
      storedFields val = (val &&& 0x800FF8FF) ||| (val &&& 0x700) := by
    rw [storedFields, ← BitVec.and_or_distrib_left]
    rfl
  constructor
  · intro same
    have apart : (val &&& 0x800FF8FF) &&& 0x700 = 0 := by
      rw [BitVec.and_assoc]
      exact BitVec.and_zero
    have inside : (val &&& 0x700) &&& 0x700 = val &&& 0x700 := by
      rw [BitVec.and_assoc, BitVec.and_self]
    have cut := congrArg (· &&& (0x700 : Uint32)) (same.trans split)
    simp only [BitVec.and_or_distrib_right, apart, inside] at cut
    exact (cut.trans BitVec.zero_or).symm
  · intro clear
    rw [split, clear]
    exact BitVec.or_zero.symm

theorem getLsbD_withHighByte (val : Uint32) (byte : Uint8) {bit : Nat}
    (low : bit < 24) :
    (withHighByte val byte).getLsbD bit = val.getLsbD bit := by
  simp only [withHighByte, BitVec.getLsbD_or, BitVec.getLsbD_and,
    BitVec.getLsbD_shiftLeft, BitVec.getLsbD_setWidth]
  interval_cases bit <;> simp

/-- A field below the high byte. -/
theorem field_withHighByte (val : Uint32) (byte : Uint8) {shift bits : Nat}
    {mask : Uint32} (inside : shift + bits ≤ 24)
    (small : mask.toNat < 2 ^ bits) :
    (withHighByte val byte >>> shift) &&& mask =
      (val >>> shift) &&& mask := by
  apply BitVec.eq_of_getLsbD_eq
  intro bit _
  rw [BitVec.getLsbD_and, BitVec.getLsbD_and, BitVec.getLsbD_ushiftRight,
    BitVec.getLsbD_ushiftRight]
  by_cases here : bit < bits
  · rw [getLsbD_withHighByte val byte (by omega)]
  · have clear : mask.getLsbD bit = false := by
      apply Nat.testBit_lt_two_pow
      exact Nat.lt_of_lt_of_le small
        (Nat.pow_le_pow_right Nat.two_pos (Nat.le_of_not_lt here))
    rw [clear, Bool.and_false, Bool.and_false]

/-- Only the enable bit is in the high byte. -/
theorem latch_withHighByte (val : Uint32) (byte : Uint8) :
    latch (withHighByte val byte) =
      { latch val with configspace := byte.setWidth 32 >>> 7 } := by
  have configspace :
      withHighByte val byte >>> 31 = byte.setWidth 32 >>> 7 := by
    apply BitVec.eq_of_getLsbD_eq
    intro bit inside
    simp only [withHighByte, BitVec.getLsbD_ushiftRight,
      BitVec.getLsbD_or, BitVec.getLsbD_and, BitVec.getLsbD_shiftLeft,
      BitVec.getLsbD_setWidth]
    interval_cases bit <;> simp
  have index :
      withHighByte val byte &&& 0xFF = val &&& 0xFF :=
    @field_withHighByte val byte 0 8 0xFF (by decide) (by decide)
  have bus :
      (withHighByte val byte >>> 16) &&& (0x0F : Uint32) =
        (val >>> 16) &&& 0x0F :=
    @field_withHighByte val byte 16 4 0x0F (by decide) (by decide)
  have dev :
      (withHighByte val byte >>> 11) &&& (0x1F : Uint32) =
        (val >>> 11) &&& 0x1F :=
    @field_withHighByte val byte 11 5 0x1F (by decide) (by decide)
  have fn :
      (withHighByte val byte >>> 8) &&& (0x07 : Uint32) =
        (val >>> 8) &&& 0x07 :=
    @field_withHighByte val byte 8 3 0x07 (by decide) (by decide)
  simp only [latch]
  rw [configspace, index, bus, dev, fn]

/-- `pci_outb` puts the byte where the register index is. -/
theorem outb_address (sys : PciSystem) (val : Uint32) (byte : Uint8) :
    (sys.select val).outb 3 byte =
      .ok { sys with bus := { sys.bus with
        state := { latch val with index := byte } } } := rfl

/-- The state behind the byte is that behind the dword exactly if the byte is
the index and keeps the enable bit. -/
theorem outb_eq_outl_iff :
    (sys.select val).outb 3 byte =
        (sys.select val).outl 0 (withHighByte val byte) ↔
      byte = (val &&& 0xFF).setWidth 8 ∧
        byte.setWidth 32 >>> 7 = val >>> 31 := by
  rw [outb_address, outl_address, PciSystem.select, latch_withHighByte]
  constructor
  · intro same
    have states := congrArg (fun sys : PciSystem => sys.bus.state)
      (Except.ok.inj same)
    have indices := congrArg ConfigState.index states
    have spaces := congrArg ConfigState.configspace states
    exact ⟨indices, spaces.symm⟩
  · intro fits
    have index : byte = (latch val).index := fits.1
    have space : byte.setWidth 32 >>> 7 = (latch val).configspace := fits.2
    have asByte : { latch val with index := byte } = latch val := by
      rw [index]
    have asDword :
        { latch val with configspace := byte.setWidth 32 >>> 7 } =
          latch val := by
      rw [space]
    rw [asByte, asDword]
    rfl

end Fields

/-- For every state, dword and byte, the register is faithful exactly if the
function number is 0, and the byte is the register index and keeps the enable
bit. -/
theorem faithfulAddress_iff (sys : PciSystem) (val : Uint32)
    (byte : Uint8) :
    FaithfulAddress sys val byte ↔
      val &&& 0x700 = 0 ∧ byte = (val &&& 0xFF).setWidth 8 ∧
        byte.setWidth 32 >>> 7 = val >>> 31 := by
  rw [← @outb_eq_outl_iff sys val byte]
  constructor
  · intro faithful
    obtain ⟨written, wrote, readBack, next, byByte, byDword, -⟩ := faithful
    have same : sys.select val = written := Except.ok.inj wrote
    subst same
    rw [inl_address] at readBack
    have shown := congrArg Prod.fst (Except.ok.inj readBack)
    exact ⟨and_eq_storedFields_iff.mp shown, byByte.trans byDword.symm⟩
  · intro fits
    rcases fits with ⟨clear, sameWrite⟩
    have readBack := inl_address sys val
    rw [and_eq_storedFields_iff.mpr clear] at readBack
    have below : withHighByte val byte &&& 0x700 = val &&& 0x700 :=
      @field_withHighByte val byte 0 11 0x700 (by decide) (by decide)
    have clearNext : withHighByte val byte &&& 0x700 = 0 := by
      rw [below, clear]
    have readNext := inl_address (sys.select val) (withHighByte val byte)
    rw [and_eq_storedFields_iff.mpr clearNext] at readNext
    exact ⟨sys.select val, rfl, readBack, _, sameWrite, rfl, readNext⟩

/-- Function 1 of device 0 is selected. -/
theorem not_always_faithfulAddress :
    ∃ start, devicesRegisterAll = .ok start ∧
      ¬ FaithfulAddress start 0x80000100 0x80 := by
  obtain ⟨start, started, -⟩ := exists_devicesRegisterAll
  refine ⟨start, started, ?_⟩
  intro faithful
  obtain ⟨written, wrote, readBack, -⟩ := faithful
  have same : start.select 0x80000100 = written := Except.ok.inj wrote
  subst same
  rw [inl_address] at readBack
  have shown :
      (0x80000100 : Uint32) &&& 0x800FF8FF = storedFields 0x80000100 :=
    congrArg Prod.fst (Except.ok.inj readBack)
  exact absurd shown (by decide)

end Kvmulate.Pci
