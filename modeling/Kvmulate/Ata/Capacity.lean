import Kvmulate.Ata.Geometry
import Kvmulate.Ata.Programming

/-!
# The capacity that IDENTIFY advertises

The size of the backing file is cut to 32 bits for the sector count and to 16
bits for the cylinders, and the task file addresses 28 bits.  Each cut bites
above a size of its own.
-/

namespace Kvmulate.Ata

open DeviceLib

/-! ## The identify block -/

/-- The sectors in the words 60 and 61. -/
def identifyCapacity (identify : Vector Uint16 256) : Nat :=
  identify[61].toNat * 65536 + identify[60].toNat

def imageCapacity (image : List Uint8) : Nat :=
  identifyCapacity (x86AtaInit image).master.identify

/-- Swapping words leaves the words behind them. -/
theorem swapWords_getElem_of_ge {position : Nat}
    (bound : position < 256) (count : Nat) :
    ∀ (identify : Vector Uint16 256) {index : Nat},
      index + count ≤ position →
        (swapWords identify index count)[position] =
          identify[position] := by
  induction count with
  | zero =>
      intro identify index _
      rfl
  | succ count inductionHypothesis =>
      intro identify index behind
      rw [swapWords, inductionHypothesis _ (by omega)]
      exact Vector.getElem_setIfInBounds_ne bound (by omega)

theorem lowWord_toNat (sectors : Uint32) :
    ((sectors &&& 0x0000FFFF).setWidth 16 : Uint16).toNat =
      sectors.toNat % 65536 := by
  have ones : (0x0000FFFF : Uint32).toNat = 2 ^ 16 - 1 := rfl
  rw [BitVec.toNat_setWidth, BitVec.toNat_and, ones,
    Nat.and_two_pow_sub_one_eq_mod]
  omega

theorem highWord_toNat (sectors : Uint32) :
    (((sectors &&& 0xFFFF0000) >>> 16).setWidth 16 : Uint16).toNat =
      sectors.toNat / 65536 := by
  have bound := sectors.isLt
  have mask : (0xFFFF0000 : Uint32) >>> 16 = 0xFFFF := rfl
  have ones : (0xFFFF : Uint32).toNat = 2 ^ 16 - 1 := rfl
  rw [BitVec.ushiftRight_and_distrib, mask, BitVec.toNat_setWidth,
    BitVec.toNat_and, ones, Nat.and_two_pow_sub_one_eq_mod,
    BitVec.toNat_ushiftRight, Nat.shiftRight_eq_div_pow]
  omega

/-- The reported sectors are those of the file, modulo 2^32. -/
theorem imageCapacity_eq (image : List Uint8) :
    imageCapacity image = image.length / 512 % 4294967296 := by
  have low :
      (x86AtaInit image).master.identify[60] =
        ((BitVec.ofNat 32 (image.length / 512) : Uint32) &&&
          0x0000FFFF).setWidth 16 := by
    simp only [x86AtaInit, buildIdentifyData]
    rw [swapWords_getElem_of_ge (by decide) _ _ (by decide)]
    repeat rw [Vector.getElem_setIfInBounds_ne (by decide) (by decide)]
    exact Vector.getElem_setIfInBounds_self (by decide)
  have high :
      (x86AtaInit image).master.identify[61] =
        (((BitVec.ofNat 32 (image.length / 512) : Uint32) &&&
          0xFFFF0000) >>> 16).setWidth 16 := by
    simp only [x86AtaInit, buildIdentifyData]
    rw [swapWords_getElem_of_ge (by decide) _ _ (by decide)]
    repeat rw [Vector.getElem_setIfInBounds_ne (by decide) (by decide)]
    exact Vector.getElem_setIfInBounds_self (by decide)
  rw [imageCapacity, identifyCapacity, low, high, lowWord_toNat,
    highWord_toNat, BitVec.toNat_ofNat]
  omega

/-- The sectors of a cylinder. -/
def perCylinder (capacity : Nat) : Nat :=
  if capacity ≤ 16514064 then 1008 else 945

/-- The reported heads and sectors, and the cylinders modulo 2^16. -/
theorem imageGeometry_of_capacity (image : List Uint8) :
    (imageGeometry image).heads * (imageGeometry image).sectors =
        perCylinder (imageCapacity image) ∧
      (imageGeometry image).cylinders =
        imageCapacity image / perCylinder (imageCapacity image) %
          65536 := by
  have capacity :
      (BitVec.ofNat 32 (image.length / 512) : Uint32).toNat =
        imageCapacity image := by
    rw [imageCapacity_eq, BitVec.toNat_ofNat]
  have product :
      (identifyHeads (BitVec.ofNat 32 (image.length / 512))).toNat *
          (identifySectors (BitVec.ofNat 32 (image.length / 512))).toNat =
        perCylinder (imageCapacity image) := by
    rw [identifyHeads, identifySectors, capacity, perCylinder]
    split_ifs <;> first | rfl | omega
  rw [imageGeometry_eq]
  refine ⟨product, ?_⟩
  rw [identifyCylinders, product, capacity, BitVec.toNat_ofNat]

/-! ## The addresses of the task file -/

/-- Some accesses of the guest make READ SECTORS in LBA mode compute the
address. -/
def Programmable (cont : AtaController) (lba : Nat) : Prop :=
  ∃ inputs responses later,
    run access cont inputs = .ok (responses, later) ∧
      later.pCurrDev = .master ∧ isLba later.master.reg = true ∧
        (readSectorsLba later.master.reg).toNat = lba

/-- A byte shifted to its place in the address. -/
theorem shifted_lt {val : Uint32} {bits shift : Nat}
    (small : val.toNat < 2 ^ bits) (fits : bits + shift ≤ 28) :
    (val <<< shift).toNat < 2 ^ 28 := by
  have scaled : val.toNat * 2 ^ shift < 2 ^ (bits + shift) := by
    rw [Nat.pow_add]
    exact Nat.mul_lt_mul_of_pos_right small (Nat.two_pow_pos shift)
  have bound := Nat.pow_le_pow_right Nat.two_pos fits
  rw [BitVec.toNat_shiftLeft, Nat.shiftLeft_eq]
  exact Nat.lt_of_le_of_lt (Nat.mod_le _ _) (Nat.lt_of_lt_of_le scaled bound)

theorem lbaAddress_lt (reg : Regs) :
    (lbaAddress reg).toNat < 2 ^ 28 := by
  have byte : ∀ val : Uint8,
      (val.setWidth 32 : Uint32).toNat < 2 ^ 8 := by
    intro val
    rw [BitVec.toNat_setWidth]
    have small := val.isLt
    omega
  have high :
      ((reg .deviceHead &&& 0xF).setWidth 32 : Uint32).toNat < 2 ^ 4 :=
    Nat.lt_succ_of_le (chsHead_le reg)
  simp only [lbaAddress, BitVec.toNat_or]
  refine Nat.or_lt_two_pow (Nat.or_lt_two_pow (Nat.or_lt_two_pow ?_ ?_) ?_)
    ?_
  · exact shifted_lt high (by decide)
  · exact shifted_lt (byte _) (by decide)
  · exact shifted_lt (byte _) (by decide)
  · exact Nat.lt_trans (byte _) (by decide)

/-- The addresses that can be programmed have 28 bits. -/
theorem programmable_iff {cont : AtaController} (fixed : Fixed cont)
    (selected : cont.pCurrDev = .master) (lba : Nat) :
    Programmable cont lba ↔ lba < 2 ^ 28 := by
  constructor
  · rintro ⟨_, _, later, -, -, mode, rfl⟩
    rw [readSectorsLba, if_pos mode]
    exact lbaAddress_lt later.master.reg
  · intro bound
    let programmed := program (BitVec.ofNat 28 lba) 0
    have ran :=
      run_of_observed
        (run_setup History.start fixed selected programmed.keeps)
    have mode := programmed.lbaMode cont.master.reg
    have address := programmed.address cont.master.reg
    refine ⟨_, _, _, ran, selected, mode, ?_⟩
    have narrow : (BitVec.ofNat 28 lba).toNat = lba :=
      (BitVec.toNat_ofNat lba 28).trans (Nat.mod_eq_of_lt bound)
    have wide : programmed.lba.toNat = lba := by
      change ((BitVec.ofNat 28 lba).setWidth 32).toNat = lba
      rw [BitVec.toNat_setWidth, narrow]
      omega
    rw [readSectorsLba, if_pos (by exact mode)]
    exact (congrArg BitVec.toNat address).trans wide

/-! ## The advertised capacity -/

/-- IDENTIFY shows the sectors of the file, all of them can be addressed, and
the cylinders are as many as the sectors fill, up to the largest word. -/
structure Advertises (image : List Uint8) : Prop where
  capacity : imageCapacity image = image.length / 512
  addressable :
    ∀ lba < imageCapacity image, Programmable (x86AtaInit image) lba
  cylinders :
    (imageGeometry image).cylinders =
      min (imageCapacity image /
        ((imageGeometry image).heads * (imageGeometry image).sectors))
        65535
  bounded :
    (imageGeometry image).cylinders * (imageGeometry image).heads *
      (imageGeometry image).sectors ≤ imageCapacity image

theorem addressable_iff (image : List Uint8) :
    (∀ lba < imageCapacity image, Programmable (x86AtaInit image) lba) ↔
      imageCapacity image ≤ 2 ^ 28 := by
  have fixed : Fixed (x86AtaInit image) := (related_init image).fixed
  constructor
  · intro every
    by_contra large
    have last := every (2 ^ 28) (by omega)
    exact absurd ((programmable_iff fixed rfl _).mp last) (Nat.lt_irrefl _)
  · intro small lba below
    exact (programmable_iff fixed rfl lba).mpr (by omega)

/-- The cylinders are right where the last 16 bits of their number are. -/
theorem cylinders_eq_min_iff (image : List Uint8) :
    (imageGeometry image).cylinders =
        min (imageCapacity image /
          ((imageGeometry image).heads * (imageGeometry image).sectors))
          65535 ↔
      imageCapacity image / perCylinder (imageCapacity image) < 65536 ∨
        imageCapacity image / perCylinder (imageCapacity image) % 65536 =
          65535 := by
  obtain ⟨product, cylinders⟩ := imageGeometry_of_capacity image
  rw [product, cylinders]
  generalize
    imageCapacity image / perCylinder (imageCapacity image) = count
  omega

/-- The geometry never shows more sectors than there are. -/
theorem geometry_bounded (image : List Uint8) :
    (imageGeometry image).cylinders * (imageGeometry image).heads *
        (imageGeometry image).sectors ≤ imageCapacity image := by
  obtain ⟨product, cylinders⟩ := imageGeometry_of_capacity image
  rw [Nat.mul_assoc, product, cylinders]
  exact Nat.le_trans (Nat.mul_le_mul_right _ (Nat.mod_le _ _))
    (Nat.div_mul_le_self _ _)

/-- For every backing file, the advertised capacity is right exactly where
its sectors can be numbered by 28 bits, and either they fill fewer than 65536
cylinders of 945 sectors or the last 16 bits of the cylinders are set. -/
theorem advertises_iff (image : List Uint8) :
    Advertises image ↔
      image.length / 512 ≤ 268435456 ∧
        (image.length / 512 < 61931520 ∨
          image.length / 512 / 945 % 65536 = 65535) := by
  have reported := imageCapacity_eq image
  constructor
  · rintro ⟨capacity, addressable, cylinders, -⟩
    have small := (addressable_iff image).mp addressable
    have wraps := (cylinders_eq_min_iff image).mp cylinders
    rw [capacity] at small wraps
    simp only [perCylinder] at wraps
    split at wraps <;> omega
  · rintro ⟨small, cylinders⟩
    have capacity : imageCapacity image = image.length / 512 := by
      omega
    refine ⟨capacity, (addressable_iff image).mpr (by omega),
      (cylinders_eq_min_iff image).mpr ?_, geometry_bounded image⟩
    rw [capacity, perCylinder]
    split <;> omega

/-! ## A file of 65536 cylinders -/

/-- A file of 65536 cylinders of 945 sectors. -/
def wrappedCylinders : List Uint8 := List.replicate (61931520 * 512) 0

theorem imageCapacity_wrappedCylinders :
    imageCapacity wrappedCylinders = 61931520 := by
  rw [imageCapacity_eq, wrappedCylinders, List.length_replicate]

/-- A file of 31 GB is reported with no cylinder at all. -/
theorem not_always_advertises : ¬ ∀ image, Advertises image := by
  intro always
  have cylinders := (always wrappedCylinders).cylinders
  rw [cylinders_eq_min_iff, imageCapacity_wrappedCylinders] at cylinders
  revert cylinders
  decide

end Kvmulate.Ata
