import Kvmulate.Ata.Commit

/-!
# Cylinders, heads and sectors

IDENTIFY DEVICE reports a geometry of 15 or 16 heads, and READ SECTORS
translates addresses with 255.  The two agree in the first cylinder only.
-/

namespace Kvmulate.Ata

open DeviceLib

/-! ## The reported geometry -/

structure Geometry where
  cylinders : Nat
  heads : Nat
  sectors : Nat
deriving DecidableEq, Repr

/-- The geometry in the words 1, 3 and 6 of an identify block. -/
def identifyGeometry (identify : Vector Uint16 256) : Geometry :=
  ⟨identify[1].toNat, identify[3].toNat, identify[6].toNat⟩

/-- The geometry reported for a backing file. -/
def imageGeometry (image : List Uint8) : Geometry :=
  identifyGeometry (x86AtaInit image).master.identify

/-- An address inside a geometry; sectors are counted from one. -/
structure Geometry.Address (geometry : Geometry) where
  cylinder : Nat
  head : Nat
  sector : Nat
  cylinder_lt : cylinder < geometry.cylinders
  head_lt : head < geometry.heads
  sector_pos : 1 ≤ sector
  sector_le : sector ≤ geometry.sectors

/-- The block that an address of the geometry stands for. -/
def Geometry.Address.block {geometry : Geometry}
    (address : geometry.Address) : Nat :=
  (address.cylinder * geometry.heads + address.head) *
      geometry.sectors + address.sector - 1

/-- Swapping words leaves the words before them. -/
theorem swapWords_getElem_of_lt {position : Nat}
    (bound : position < 256) (count : Nat) :
    ∀ (identify : Vector Uint16 256) {index : Nat}, position < index →
      (swapWords identify index count)[position] = identify[position] := by
  induction count with
  | zero =>
      intro identify index _
      rfl
  | succ count inductionHypothesis =>
      intro identify index before
      rw [swapWords, inductionHypothesis _ (by omega)]
      exact Vector.getElem_setIfInBounds_ne bound (by omega)

theorem imageGeometry_eq (image : List Uint8) :
    let sectors : Uint32 := BitVec.ofNat 32 (image.length / 512)
    imageGeometry image =
      ⟨(identifyCylinders sectors).toNat, (identifyHeads sectors).toNat,
        (identifySectors sectors).toNat⟩ := by
  intro sectors
  have cylinders :
      (x86AtaInit image).master.identify[1] =
        identifyCylinders sectors := by
    simp only [x86AtaInit, buildIdentifyData]
    rw [swapWords_getElem_of_lt (by decide) _ _ (by decide)]
    exact Vector.getElem_setIfInBounds_self (by decide)
  have heads :
      (x86AtaInit image).master.identify[3] = identifyHeads sectors := by
    simp only [x86AtaInit, buildIdentifyData]
    rw [swapWords_getElem_of_lt (by decide) _ _ (by decide),
      Vector.getElem_setIfInBounds_ne (by decide) (by decide),
      Vector.getElem_setIfInBounds_ne (by decide) (by decide)]
    exact Vector.getElem_setIfInBounds_self (by decide)
  have tracks :
      (x86AtaInit image).master.identify[6] =
        identifySectors sectors := by
    simp only [x86AtaInit, buildIdentifyData]
    rw [swapWords_getElem_of_lt (by decide) _ _ (by decide),
      Vector.getElem_setIfInBounds_ne (by decide) (by decide)]
    exact Vector.getElem_setIfInBounds_self (by decide)
  rw [imageGeometry, identifyGeometry, cylinders, heads, tracks]

/-- The geometry of every file has 63 sectors a track, at most 16 heads, and
cylinders that fit two registers. -/
theorem imageGeometry_bounds (image : List Uint8) :
    (imageGeometry image).cylinders < 65536 ∧
      ((imageGeometry image).heads = 15 ∨
        (imageGeometry image).heads = 16) ∧
      (imageGeometry image).sectors = 63 := by
  rw [imageGeometry_eq]
  refine ⟨BitVec.isLt _, ?_, ?_⟩
  · simp only [identifyHeads]
    split
    · exact Or.inr rfl
    · split
      · exact Or.inl rfl
      · exact Or.inr rfl
  · simp only [identifySectors]
    split
    · rfl
    · rfl

/-! ## The translation of READ SECTORS -/

/-- The task file holds an address in CHS mode. -/
structure HoldsChs (reg : Regs) (cylinder head sector : Nat) : Prop where
  mode : isLba reg = false
  cylinder : (chsCylinder reg).toNat = cylinder
  head : (chsHead reg).toNat = head
  sector : (chsSector reg).toNat = sector

/-- The task file holds an address in LBA mode. -/
structure HoldsLba (reg : Regs) (block : Nat) : Prop where
  mode : isLba reg = true
  block : (lbaAddress reg).toNat = block

/-- The 32-bit computation of the CHS branch does not deliver its integer
value. -/
def ChsWraps (reg : Regs) : Prop :=
  ((readSectorsLba reg).toNat : Int) ≠
    (((chsCylinder reg).toNat * 255 + (chsHead reg).toNat) * 63 : Int) +
      (chsSector reg).toNat - 1

theorem chsCylinder_lt (reg : Regs) :
    (chsCylinder reg).toNat < 65536 := by
  have joined :
      chsCylinder reg =
        (reg .cylinderHigh ++ reg .cylinderLow : BitVec 16).setWidth
          32 := by
    unfold chsCylinder
    grind
  rw [joined, BitVec.toNat_setWidth]
  have small := (reg .cylinderHigh ++ reg .cylinderLow : BitVec 16).isLt
  omega

theorem chsHead_le (reg : Regs) : (chsHead reg).toNat ≤ 15 := by
  have low : (reg .deviceHead &&& 0xF).toNat ≤ 15 := by
    rw [BitVec.toNat_and]
    exact Nat.and_le_right
  rw [chsHead, BitVec.toNat_setWidth]
  omega

theorem chsSector_lt (reg : Regs) : (chsSector reg).toNat < 256 := by
  have small := (reg .sectorNumber).isLt
  rw [chsSector, BitVec.toNat_setWidth]
  omega

/-- The sector number before one is subtracted from it. -/
def chsCount (reg : Regs) : Nat :=
  ((chsCylinder reg).toNat * 255 + (chsHead reg).toNat) * 63 +
    (chsSector reg).toNat

theorem chsCount_lt (reg : Regs) : chsCount reg < 4294967296 := by
  have cylinder := chsCylinder_lt reg
  have head := chsHead_le reg
  have sector := chsSector_lt reg
  unfold chsCount
  omega

/-- The translated address; only the last subtraction may wrap. -/
theorem readSectorsLba_of_chs {reg : Regs} (mode : isLba reg = false) :
    (readSectorsLba reg).toNat =
      (4294967295 + chsCount reg) % 4294967296 := by
  have cylinder := chsCylinder_lt reg
  have head := chsHead_le reg
  have sector := chsSector_lt reg
  have chs : ¬ isLba reg = true := by
    rw [mode]
    decide
  have scaled :
      (chsCylinder reg * 255).toNat = (chsCylinder reg).toNat * 255 := by
    have heads : (255 : Uint32).toNat = 255 := rfl
    rw [BitVec.toNat_mul, heads]
    omega
  have tracks :
      (chsCylinder reg * 255 + chsHead reg).toNat =
        (chsCylinder reg).toNat * 255 + (chsHead reg).toNat := by
    rw [BitVec.toNat_add, scaled]
    omega
  have sectors :
      ((chsCylinder reg * 255 + chsHead reg) * 63).toNat =
        ((chsCylinder reg).toNat * 255 + (chsHead reg).toNat) * 63 := by
    have perTrack : (63 : Uint32).toNat = 63 := rfl
    rw [BitVec.toNat_mul, tracks, perTrack]
    omega
  have counted :
      ((chsCylinder reg * 255 + chsHead reg) * 63 +
          chsSector reg).toNat = chsCount reg := by
    have bound := chsCount_lt reg
    rw [BitVec.toNat_add, sectors, chsCount]
    unfold chsCount at bound
    omega
  rw [readSectorsLba, if_neg chs, BitVec.toNat_sub, counted]
  rfl

/-- The translation wraps for the sector zero of the first track only. -/
theorem chsWraps_iff {reg : Regs} (mode : isLba reg = false) :
    ChsWraps reg ↔
      (chsCylinder reg).toNat = 0 ∧ (chsHead reg).toNat = 0 ∧
        (chsSector reg).toNat = 0 := by
  have bound := chsCount_lt reg
  unfold ChsWraps
  rw [readSectorsLba_of_chs mode]
  by_cases none : chsCount reg = 0
  · rw [none]
    unfold chsCount at none
    omega
  · have exact :
        (4294967295 + chsCount reg) % 4294967296 = chsCount reg - 1 := by
      omega
    rw [exact]
    unfold chsCount at none ⊢
    omega

theorem readSectorsOffset_eq_iff (first second : Regs) :
    readSectorsOffset first = readSectorsOffset second ↔
      (readSectorsLba first).toNat = (readSectorsLba second).toNat := by
  unfold readSectorsOffset
  rw [sectorOffset_setWidth, sectorOffset_setWidth]
  omega

/-- An address of the reported geometry is read from its block exactly in the
first cylinder. -/
theorem readSectorsOffset_chs_eq_iff {image : List Uint8}
    (address : (imageGeometry image).Address) {chs lba : Regs}
    (holdsChs :
      HoldsChs chs address.cylinder address.head address.sector)
    (holdsLba : HoldsLba lba address.block) :
    readSectorsOffset chs = readSectorsOffset lba ↔
      address.cylinder = 0 := by
  have positive := address.sector_pos
  obtain ⟨-, heads, sectors⟩ := imageGeometry_bounds image
  have block := holdsLba.block
  rw [Geometry.Address.block, sectors] at block
  have lbaValue : (readSectorsLba lba).toNat = (lbaAddress lba).toNat := by
    rw [readSectorsLba, if_pos holdsLba.mode]
  have counted :
      chsCount chs =
        (address.cylinder * 255 + address.head) * 63 +
          address.sector := by
    rw [chsCount, holdsChs.cylinder, holdsChs.head, holdsChs.sector]
  have bound := chsCount_lt chs
  have exact :
      (4294967295 + chsCount chs) % 4294967296 = chsCount chs - 1 := by
    omega
  rw [readSectorsOffset_eq_iff, readSectorsLba_of_chs holdsChs.mode,
    lbaValue, block, exact, counted]
  rcases heads with fifteen | sixteen
  · rw [fifteen]
    omega
  · rw [sixteen]
    omega

/-- For every backing file, CHS and LBA mode read an address of the reported
geometry from the same offset exactly in its first cylinder; and of all task
files in CHS mode, only those for sector zero of the first track wrap. -/
theorem chs_agrees_in_first_cylinder (image : List Uint8) :
    (∀ (address : (imageGeometry image).Address) (chs lba : Regs),
      HoldsChs chs address.cylinder address.head address.sector →
        HoldsLba lba address.block →
          (readSectorsOffset chs = readSectorsOffset lba ↔
            address.cylinder = 0)) ∧
      ∀ reg, isLba reg = false →
        (¬ ChsWraps reg ↔
          ¬ ((chsCylinder reg).toNat = 0 ∧ (chsHead reg).toNat = 0 ∧
            (chsSector reg).toNat = 0)) :=
  ⟨fun address _ _ => readSectorsOffset_chs_eq_iff address,
    fun _ mode => not_congr (chsWraps_iff mode)⟩

/-! ## The second cylinder -/

/-- A file of two cylinders. -/
def twoCylinders : List Uint8 := List.replicate (2016 * 512) 0

theorem imageGeometry_twoCylinders :
    imageGeometry twoCylinders = ⟨2, 16, 63⟩ := by
  have length : twoCylinders.length / 512 = 2016 := by
    rw [twoCylinders, List.length_replicate]
  have geometry := imageGeometry_eq twoCylinders
  rw [length] at geometry
  exact geometry.trans (by decide)

/-- The first sector of the second cylinder. -/
def secondCylinder : (imageGeometry twoCylinders).Address where
  cylinder := 1
  head := 0
  sector := 1
  cylinder_lt := by
    rw [imageGeometry_twoCylinders]
    decide
  head_lt := by
    rw [imageGeometry_twoCylinders]
    decide
  sector_pos := Nat.le_refl 1
  sector_le := by
    rw [imageGeometry_twoCylinders]
    decide

/-- Cylinder 1, head 0, sector 1. -/
def secondCylinderChs : Regs :=
  Function.update (Function.update (fun _ => 0) .cylinderLow 1)
    .sectorNumber 1

/-- Block 1008. -/
def secondCylinderLba : Regs :=
  Function.update
    (Function.update
      (Function.update (fun _ => 0) .cylinderLow 0x03)
      .sectorNumber 0xF0)
    .deviceHead 0x40

/-- Neither part of the agreement holds for all inputs: the second cylinder is
read from elsewhere, and an empty task file wraps. -/
theorem chs_not_always_agrees :
    (¬ ∀ (image : List Uint8) (address : (imageGeometry image).Address)
        (chs lba : Regs),
      HoldsChs chs address.cylinder address.head address.sector →
        HoldsLba lba address.block →
          readSectorsOffset chs = readSectorsOffset lba) ∧
      ¬ ∀ reg, isLba reg = false → ¬ ChsWraps reg := by
  constructor
  · intro always
    have heads : (imageGeometry twoCylinders).heads = 16 := by
      rw [imageGeometry_twoCylinders]
    have sectors : (imageGeometry twoCylinders).sectors = 63 := by
      rw [imageGeometry_twoCylinders]
    have block : secondCylinder.block = 1008 := by
      rw [Geometry.Address.block, heads, sectors]
      rfl
    have holdsChs : HoldsChs secondCylinderChs 1 0 1 :=
      ⟨rfl, rfl, rfl, rfl⟩
    have holdsLba : HoldsLba secondCylinderLba secondCylinder.block := by
      rw [block]
      exact ⟨rfl, rfl⟩
    have same :=
      always twoCylinders secondCylinder secondCylinderChs
        secondCylinderLba holdsChs holdsLba
    have first : 1 = 0 :=
      (readSectorsOffset_chs_eq_iff secondCylinder holdsChs holdsLba).mp
        same
    cases first
  · intro always
    exact always (fun _ => 0) rfl ((chsWraps_iff rfl).mpr ⟨rfl, rfl, rfl⟩)

end Kvmulate.Ata
