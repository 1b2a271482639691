import Mathlib.Data.Nat.Notation

/-!
# Regions of an address space

A region is given by its first address and its size, both machine words, and
so is its end: a region whose end wraps covers nothing.
-/

namespace DeviceLib

variable {width : Nat}

structure Region (width : Nat) where
  addr : BitVec width
  size : BitVec width
deriving DecidableEq, Repr

namespace Region

/-- The first address behind the region. -/
def stop (region : Region width) : BitVec width :=
  region.addr + region.size

def Covers (region : Region width) (point : BitVec width) : Prop :=
  region.addr ≤ point ∧ point < region.stop

instance (region : Region width) (point : BitVec width) :
    Decidable (region.Covers point) :=
  inferInstanceAs (Decidable (_ ∧ _))

def Inhabited (region : Region width) : Prop :=
  ∃ point, region.Covers point

def Overlaps (first second : Region width) : Prop :=
  ∃ point, first.Covers point ∧ second.Covers point

/-- The region is made of whole units. -/
def Aligned (unit : Nat) (region : Region width) : Prop :=
  unit ∣ region.addr.toNat ∧ unit ∣ region.size.toNat

instance (unit : Nat) (region : Region width) :
    Decidable (region.Aligned unit) :=
  inferInstanceAs (Decidable (_ ∧ _))

theorem inhabited_iff {region : Region width} :
    region.Inhabited ↔ region.addr < region.stop := by
  constructor
  · rintro ⟨point, low, high⟩
    exact Nat.lt_of_le_of_lt low high
  · intro some
    exact ⟨region.addr, Nat.le_refl _, some⟩

instance (region : Region width) : Decidable region.Inhabited :=
  decidable_of_iff _ inhabited_iff.symm

theorem overlaps_iff {first second : Region width} :
    first.Overlaps second ↔
      (first.Inhabited ∧ second.Inhabited) ∧
        first.addr < second.stop ∧ second.addr < first.stop := by
  simp only [inhabited_iff]
  constructor
  · rintro ⟨point, ⟨firstLow, firstHigh⟩, secondLow, secondHigh⟩
    exact ⟨⟨Nat.lt_of_le_of_lt firstLow firstHigh,
        Nat.lt_of_le_of_lt secondLow secondHigh⟩,
      Nat.lt_of_le_of_lt firstLow secondHigh,
      Nat.lt_of_le_of_lt secondLow firstHigh⟩
  · rintro ⟨⟨firstSome, secondSome⟩, before, behind⟩
    rcases Nat.le_total first.addr.toNat second.addr.toNat with
      starts | starts
    · exact ⟨second.addr, ⟨starts, behind⟩, Nat.le_refl _, secondSome⟩
    · exact ⟨first.addr, ⟨Nat.le_refl _, firstSome⟩, starts, before⟩

instance (first second : Region width) :
    Decidable (first.Overlaps second) :=
  decidable_of_iff _ overlaps_iff.symm

/-- Regions that follow one another have no address in common. -/
theorem not_overlaps_of_stop_le {first second : Region width}
    (follows : first.stop ≤ second.addr) : ¬ first.Overlaps second := by
  rintro ⟨point, ⟨-, firstHigh⟩, secondLow, -⟩
  exact absurd (Nat.lt_of_lt_of_le firstHigh follows)
    (Nat.not_lt_of_le secondLow)

theorem Overlaps.symm {first second : Region width}
    (overlap : first.Overlaps second) : second.Overlaps first := by
  obtain ⟨point, inFirst, inSecond⟩ := overlap
  exact ⟨point, inSecond, inFirst⟩

theorem overlaps_self {region : Region width} (some : region.Inhabited) :
    region.Overlaps region := by
  obtain ⟨point, covered⟩ := some
  exact ⟨point, covered, covered⟩

end Region

end DeviceLib
