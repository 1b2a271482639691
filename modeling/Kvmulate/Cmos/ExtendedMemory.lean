import Kvmulate.Cmos

/-!
# The extended memory

Two registers show the RAM behind the first 16M, in KiB, as a 16-bit number.
-/

namespace Kvmulate.Cmos

open DeviceLib Kvmulate.System

/-- What the size that a run reports may depend on besides the RAM. -/
structure Boot where
  kvm : Kvm
  blocks : Fin 4 → Uint64
  sys : Sys
  ctx : Ctx
  tm : Tm

/-- Registers 0x30 and 0x31, as one number. -/
def Boot.reportedKib (boot : Boot) (uNumMegsRAM : Uint32) :
    Outcome Nat := do
  let ram := mapRam boot.kvm boot.blocks boot.sys uNumMegsRAM
  let low ← readRegister boot.ctx ram boot.tm 0x30
  let high ← readRegister boot.ctx ram boot.tm 0x31
  pure (low.toNat + 256 * high.toNat)

/-- The size before it is cut to 16 bits. -/
def extKib (uNumMegsRAM : Uint32) : Nat :=
  (extMem (ramBytes uNumMegsRAM)).toNat / 1024

/-- The number is not above the RAM behind the first megabyte, and a size that
does not fit is shown as the largest one that does. -/
def Expresses (uNumMegsRAM : Uint32) (reported : Nat) : Prop :=
  reported ≤ (uNumMegsRAM.toNat - 1) * 1024 ∧
    (65535 < extKib uNumMegsRAM → reported = 65535)

/-- Two runs report sizes in the order of their RAM. -/
def ReportsInOrder (first second : Boot) (less more : Uint32) : Prop :=
  ∃ lessKib moreKib,
    first.reportedKib less = .ok lessKib ∧
      second.reportedKib more = .ok moreKib ∧
        lessKib ≤ moreKib ∧
          Expresses less lessKib ∧ Expresses more moreKib

section Reported

variable {uNumMegsRAM : Uint32}

/-- The number is what is left of the size in 16 bits. -/
theorem reportedKib_eq (boot : Boot) (uNumMegsRAM : Uint32) :
    boot.reportedKib uNumMegsRAM = .ok (extKib uNumMegsRAM % 65536) := by
  have bytes : ∀ size : Uint64,
      ((size >>> 10).setWidth 8).toNat +
          256 * ((size >>> 18).setWidth 8).toNat =
        size.toNat / 1024 % 65536 := by
    intro size
    rw [BitVec.toNat_setWidth, BitVec.toNat_setWidth,
      BitVec.toNat_ushiftRight, BitVec.toNat_ushiftRight,
      Nat.shiftRight_eq_div_pow, Nat.shiftRight_eq_div_pow]
    omega
  exact congrArg Except.ok (bytes (extMem (ramBytes uNumMegsRAM)))

theorem extKib_eq (enough : 16 ≤ uNumMegsRAM.toNat) :
    extKib uNumMegsRAM = (min uNumMegsRAM.toNat 3584 - 16) * 1024 := by
  have bytes := toNat_ramBytes uNumMegsRAM
  have megs := uNumMegsRAM.isLt
  simp only [extKib, extMem]
  by_cases large : 0xE0000000 < ramBytes uNumMegsRAM
  · have beyond : 0xE0000000 < (ramBytes uNumMegsRAM).toNat := large
    have capped : min uNumMegsRAM.toNat 3584 = 3584 := by
      omega
    rw [if_pos large, capped]
    rfl
  · have within : (ramBytes uNumMegsRAM).toNat ≤ 0xE0000000 :=
      Nat.le_of_not_lt large
    have difference :
        (ramBytes uNumMegsRAM - 16 * 1024 * 1024).toNat =
          (ramBytes uNumMegsRAM).toNat - 16777216 := by
      bv_omega
    rw [if_neg large, difference, bytes]
    omega

end Reported

/-- For every two runs with at least 16M, the sizes are as they should be
exactly if the larger RAM is below 80M, where 16 bits are enough. -/
theorem reportsInOrder_iff (first second : Boot) (less more : Uint32)
    (enough : 16 ≤ less.toNat) (ordered : less ≤ more) :
    ReportsInOrder first second less more ↔ more.toNat < 80 := by
  have order : less.toNat ≤ more.toNat := ordered
  have lessSize := extKib_eq enough
  have moreSize := extKib_eq (Nat.le_trans enough order)
  constructor
  · intro inOrder
    obtain ⟨lessKib, moreKib, -, shown, -, -, -, saturated⟩ := inOrder
    rw [reportedKib_eq] at shown
    cases shown
    by_contra large
    have full := saturated (by omega)
    omega
  · intro small
    refine ⟨_, _, reportedKib_eq first less, reportedKib_eq second more, ?_,
      ⟨?_, ?_⟩, ⟨?_, ?_⟩⟩
    · omega
    · omega
    · omega
    · omega
    · omega

/-- The first boot, on the first of January. -/
def Boot.plain : Boot where
  kvm := fun _ _ => true
  blocks := fun _ => 0
  sys := Sys.cleared
  ctx := x86CmosInit
  tm := ⟨0, 0, 0, 1, 0, 100⟩

theorem reportsInOrder_iff_largest :
    ReportsInOrder Boot.plain Boot.plain 16 79 ↔
      (79 : Uint32).toNat < 80 :=
  reportsInOrder_iff Boot.plain Boot.plain 16 79 (by decide) (by decide)

/-- With 80M, one more than with the largest size that fits, nothing is left
of the size. -/
theorem not_always_reportsInOrder :
    ¬ ∀ (first second : Boot) (less more : Uint32), 16 ≤ less.toNat →
      less ≤ more → ReportsInOrder first second less more := by
  intro claimed
  rcases claimed Boot.plain Boot.plain 79 80 (by decide) (by decide) with
    ⟨lessKib, moreKib, less, more, order, -⟩
  have small : (79 : Uint32).toNat = 79 := rfl
  have large : (80 : Uint32).toNat = 80 := rfl
  have full := Except.ok.inj ((reportedKib_eq _ _).symm.trans less)
  have wrapped := Except.ok.inj ((reportedKib_eq _ _).symm.trans more)
  rw [extKib_eq (by decide), small] at full
  rw [extKib_eq (by decide), large] at wrapped
  omega

end Kvmulate.Cmos
