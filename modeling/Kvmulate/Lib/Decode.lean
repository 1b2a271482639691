import Mathlib.Algebra.Group.Nat.Defs

/-!
# Address decoding by base and mask

A window answers the addresses whose bits under its mask are those of its
base.  Where addresses are wider than the mask, the bits above it are taken to
be masked away.
-/

namespace DeviceLib

variable {n m : Nat}

/-- The address lies in the window that starts at `base` and is as long as the
bits outside `mask` count. -/
def InWindow (base mask : BitVec n) (address : BitVec m) : Prop :=
  base.toNat ≤ address.toNat ∧
    address.toNat - base.toNat ≤ (~~~mask).toNat

/-- Splitting a word at a mask. -/
theorem toNat_and_add_and_not (word mask : BitVec n) :
    (word &&& mask).toNat + (word &&& ~~~mask).toNat = word.toNat := by
  have disjoint : (word &&& mask) &&& (word &&& ~~~mask) = 0#n := by
    ext bit
    simp
    grind
  have joined : (word &&& mask) + (word &&& ~~~mask) = word := by
    rw [BitVec.add_eq_or_of_and_eq_zero _ _ disjoint]
    ext bit
    simp
    grind
  rw [← BitVec.toNat_add_of_and_eq_zero disjoint, joined]

/-- A base that is aligned to its mask leaves room for the whole window. -/
theorem toNat_add_not_lt {base mask : BitVec n}
    (aligned : base &&& mask = base) :
    base.toNat + (~~~mask).toNat < 2 ^ n := by
  have disjoint : base &&& ~~~mask = 0#n := by
    rw [← aligned]
    ext bit
    simp
  rw [← BitVec.toNat_add_of_and_eq_zero disjoint]
  exact BitVec.isLt _

theorem toNat_and_le_right (first second : BitVec n) :
    (first &&& second).toNat ≤ second.toNat := by
  rw [BitVec.toNat_and]
  exact Nat.and_le_right

/-- A decoded address lies in the window exactly when it has no bit above the
mask. -/
theorem inWindow_iff_of_decoded (narrow : n ≤ m) {base mask : BitVec n}
    {address : BitVec m}
    (decoded : address &&& mask.setWidth m = base.setWidth m) :
    InWindow base mask address ↔ address.toNat < 2 ^ n := by
  have low : address.setWidth n &&& mask = base := by
    have cut := congrArg (BitVec.setWidth n) decoded
    rw [BitVec.setWidth_and, BitVec.setWidth_setWidth_of_le _ narrow,
      BitVec.setWidth_setWidth_of_le _ narrow, BitVec.setWidth_eq,
      BitVec.setWidth_eq] at cut
    exact cut
  have aligned : base &&& mask = base := by
    rw [← low, BitVec.and_assoc, BitVec.and_self]
  have room := toNat_add_not_lt aligned
  have parts := toNat_and_add_and_not (address.setWidth n) mask
  have rest := toNat_and_le_right (address.setWidth n) (~~~mask)
  rw [low] at parts
  constructor
  · intro inside
    have upper := inside.2
    have lower := inside.1
    omega
  · intro small
    have same : (address.setWidth n).toNat = address.toNat := by
      rw [BitVec.toNat_setWidth, Nat.mod_eq_of_lt small]
    rw [same] at parts
    exact ⟨by omega, by omega⟩

/-- A decoded address is no further from its base than the mask leaves. -/
theorem toNat_sub_le_of_decoded {base mask address : BitVec n}
    (decoded : address &&& mask = base) :
    (address - base).toNat ≤ (~~~mask).toNat := by
  have parts := toNat_and_add_and_not address mask
  have rest := toNat_and_le_right address (~~~mask)
  rw [decoded] at parts
  rw [BitVec.toNat_sub_of_le (BitVec.le_def.mpr (by omega))]
  omega

/-- A field of a word, cut out by a shift and a mask of ones. -/
theorem toNat_ushiftRight_and {word mask : BitVec n} {start width : Nat}
    (ones : mask.toNat = 2 ^ width - 1) :
    ((word >>> start) &&& mask).toNat =
      word.toNat / 2 ^ start % 2 ^ width := by
  rw [BitVec.toNat_and, ones, Nat.and_two_pow_sub_one_eq_mod,
    BitVec.toNat_ushiftRight, Nat.shiftRight_eq_div_pow]

theorem toNat_extractLsb' {word : BitVec n} {start width : Nat} :
    (word.extractLsb' start width).toNat =
      word.toNat / 2 ^ start % 2 ^ width := by
  rw [BitVec.extractLsb'_toNat, Nat.shiftRight_eq_div_pow]

theorem append_eq_append_iff {high other : BitVec n}
    {low another : BitVec m} :
    high ++ low = other ++ another ↔ high = other ∧ low = another := by
  constructor
  · intro same
    have left := congrArg (fun word => word.extractLsb' m n) same
    have right := congrArg (fun word => word.extractLsb' 0 m) same
    simp only [BitVec.extractLsb'_append_eq_left] at left
    simp only [BitVec.extractLsb'_append_eq_right] at right
    exact ⟨left, right⟩
  · rintro ⟨rfl, rfl⟩
    rfl

end DeviceLib
