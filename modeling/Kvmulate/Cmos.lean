import Kvmulate.System.Memory
import Kvmulate.Lib.Outcome

/-!
# The CMOS

The functions of `devices/x86/cmos.c`, and the size of the memory that its
registers give.  The argument `port` is the distance from port 0x70.
-/

namespace Kvmulate.Cmos

open DeviceLib Kvmulate.System

structure Rtc where
  divider : Int
  rate : Int
  statusB : Uint8
  statusC : Uint8
  statusD : Uint8
deriving DecidableEq, Repr

/-- `ctx_t` without the pointer to the system, which the functions are
given. -/
structure Ctx where
  indexreg : Uint8
  resetcode : Uint8
  rtc : Rtc
deriving DecidableEq, Repr

/-- What the functions read of `struct tm`. -/
structure Tm where
  sec : Int
  min : Int
  hour : Int
  mday : Int
  mon : Int
  year : Int
deriving DecidableEq, Repr

/-- The state that `x86_cmos_init` leaves. -/
def x86CmosInit : Ctx where
  indexreg := 0
  resetcode := 0
  rtc :=
    { divider := 32768
      rate := 1024
      statusB := 0
      statusC := 0
      statusD := 0x80 }

def statusBBcdBin : Uint8 := (1 : Uint8) <<< 2
def statusB24H : Uint8 := (1 : Uint8) <<< 1

def dec2bcd (x : Uint8) : Uint8 :=
  ((x / 10) <<< 4) ||| (x % 10)

def bin2bcd (ctx : Ctx) (val : Uint8) : Uint8 :=
  if ctx.rtc.statusB &&& statusBBcdBin ≠ 0 then val else dec2bcd val

/-! ## The clock -/

def readHour (ctx : Ctx) (tm : Tm) : Uint8 :=
  let ret : Uint8 := BitVec.ofInt 8 tm.hour
  if ctx.rtc.statusB &&& statusB24H = 0 ∧ 12 < ret then
    0x80 ||| bin2bcd ctx (ret - 12)
  else bin2bcd ctx ret

def readYear (ctx : Ctx) (tm : Tm) : Uint8 :=
  let ret : Uint8 := BitVec.ofInt 8 tm.year
  bin2bcd ctx (if 100 ≤ ret then ret - 100 else ret)

def readCentury (ctx : Ctx) (tm : Tm) : Uint8 :=
  let ret : Uint8 := BitVec.ofInt 8 tm.year
  bin2bcd ctx (if 100 ≤ ret then 1 else 0)

/-- Status register A is read after the rate and the divider were set. -/
def readStatusA (ctx : Ctx) : Uint8 × Ctx :=
  (6 ||| ((1 : Uint8) <<< 5),
    { ctx with rtc := { ctx.rtc with divider := 32768, rate := 1024 } })

/-! ## The size of the memory -/

/-- The RAM below 4G, less 16M. -/
def extMem (ramsize : Uint64) : Uint64 :=
  (if 0xE0000000 < ramsize then 0xE0000000 else ramsize) -
    16 * 1024 * 1024

/-- The RAM above 4G. -/
def highMem (ramsize : Uint64) : Uint64 :=
  if ramsize ≤ 0xE0000000 then 0 else ramsize - 0xE0000000 - 0x100000

/-! ## The port handlers -/

def cmosInb (ctx : Ctx) (sys : Sys) (tm : Tm) (port : Uint16) :
    Outcome (Uint8 × Ctx) :=
  if port = 0x70 then pure (ctx.indexreg, ctx)
  else if ctx.indexreg = 0x00 then
    pure (bin2bcd ctx (BitVec.ofInt 8 tm.sec), ctx)
  else if ctx.indexreg = 0x01 then pure (0xFF, ctx)
  else if ctx.indexreg = 0x03 then pure (0xFF, ctx)
  else if ctx.indexreg = 0x05 then pure (0xFF, ctx)
  else if ctx.indexreg = 0x02 then
    pure (bin2bcd ctx (BitVec.ofInt 8 tm.min), ctx)
  else if ctx.indexreg = 0x04 then pure (readHour ctx tm, ctx)
  else if ctx.indexreg = 0x07 then
    pure (bin2bcd ctx (BitVec.ofInt 8 tm.mday), ctx)
  else if ctx.indexreg = 0x08 then
    pure (bin2bcd ctx (BitVec.ofInt 8 (tm.mon + 1)), ctx)
  else if ctx.indexreg = 0x09 then pure (readYear ctx tm, ctx)
  else if ctx.indexreg = 0x0A then pure (readStatusA ctx)
  else if ctx.indexreg = 0x0B then pure (ctx.rtc.statusB, ctx)
  else if ctx.indexreg = 0x0C then pure (ctx.rtc.statusC, ctx)
  else if ctx.indexreg = 0x0D then pure (ctx.rtc.statusD, ctx)
  else if ctx.indexreg = 0x0F then pure (ctx.resetcode, ctx)
  else if ctx.indexreg = 0x10 then pure ((0x4 : Uint8) <<< 4, ctx)
  else if ctx.indexreg = 0x12 then pure (0xF0, ctx)
  else if ctx.indexreg = 0x13 then pure (0x00, ctx)
  else if ctx.indexreg = 0x17 then pure (0xFF, ctx)
  else if ctx.indexreg = 0x18 then pure (0xFF, ctx)
  else if ctx.indexreg = 0x32 then pure (readCentury ctx tm, ctx)
  else if ctx.indexreg = 0x30 then
    pure ((extMem sys.ramsize >>> 10).setWidth 8, ctx)
  else if ctx.indexreg = 0x31 then
    pure ((extMem sys.ramsize >>> 18).setWidth 8, ctx)
  else if ctx.indexreg = 0x34 then
    pure (((extMem sys.ramsize >>> 16) &&& 0xFF).setWidth 8, ctx)
  else if ctx.indexreg = 0x35 then
    pure (((extMem sys.ramsize >>> 24) &&& 0xFF).setWidth 8, ctx)
  else if ctx.indexreg = 0x38 then pure (1, ctx)
  else if ctx.indexreg = 0x39 then pure (1, ctx)
  else if ctx.indexreg = 0x3D then pure (2, ctx)
  else if ctx.indexreg = 0x5B then
    pure (((highMem sys.ramsize >>> 16) &&& 0xFF).setWidth 8, ctx)
  else if ctx.indexreg = 0x5C then
    pure (((highMem sys.ramsize >>> 24) &&& 0xFF).setWidth 8, ctx)
  else if ctx.indexreg = 0x5D then
    pure (((highMem sys.ramsize >>> 32) &&& 0xFF).setWidth 8, ctx)
  else if ctx.indexreg = 0x5F then pure (0, ctx)
  else .error .abort

/-- The registers whose writes are skipped. -/
def skippedRegs : List Uint8 :=
  [0x00, 0x02, 0x04, 0x07, 0x08, 0x09, 0x17, 0x32]

def writeStatusA (ctx : Ctx) (val : Uint8) : Outcome Ctx := do
  Outcome.assert (val &&& 0x0F = 0x06)
  Outcome.assert (val &&& 0x70 = 0x20)
  pure { ctx with rtc := { ctx.rtc with rate := 1024, divider := 32768 } }

def cmosOutb (ctx : Ctx) (port : Uint16) (val : Uint8) : Outcome Ctx :=
  if port = 0x00 then pure { ctx with indexreg := val &&& ~~~0x80 }
  else if ctx.indexreg = 0x0A then writeStatusA ctx val
  else if ctx.indexreg = 0x0B then
    -- What is written to register B goes to the field of register C.
    pure { ctx with rtc := { ctx.rtc with statusC := val } }
  else if ctx.indexreg = 0x0F then pure { ctx with resetcode := val }
  else if ctx.indexreg ∈ skippedRegs then pure ctx
  else .error .abort

/-! ## What a guest finds -/

/-- Select a register and read it. -/
def readRegister (ctx : Ctx) (sys : Sys) (tm : Tm) (reg : Uint8) :
    Outcome Uint8 := do
  let selected ← cmosOutb ctx 0 reg
  let (val, _) ← cmosInb selected sys tm 1
  pure val

def memoryBelow4G (reg34 reg35 : Uint8) : Nat :=
  16 * 1048576 + 65536 * (reg34.toNat + 256 * reg35.toNat)

def memoryAbove4G (reg5B reg5C reg5D : Uint8) : Nat :=
  65536 * (reg5B.toNat + 256 * reg5C.toNat + 65536 * reg5D.toNat)

/-- The region that starts at an address. -/
def regionAt (regions : List (Region 64)) (addr : Uint64) :
    Option (Region 64) :=
  regions.find? fun region => region.addr = addr

section Size

variable {ctx : Ctx} {sys : Sys} {tm : Tm} {kvm : Kvm}
variable {blocks : Fin 4 → Uint64} {uNumMegsRAM : Uint32}

/-- The byte of a word from a bit on. -/
theorem toNat_byteFrom (word : Uint64) (start : Nat) :
    (((word >>> start) &&& 0xFF).setWidth 8).toNat =
      (word.toNat >>> start) % 256 := by
  have mask : (0xFF : Uint64).toNat = 2 ^ 8 - 1 := rfl
  rw [BitVec.toNat_setWidth, BitVec.toNat_and, mask,
    Nat.and_two_pow_sub_one_eq_mod, BitVec.toNat_ushiftRight,
    Nat.mod_mod]

theorem readRegister_34 :
    readRegister ctx sys tm 0x34 =
      .ok (((extMem sys.ramsize >>> 16) &&& 0xFF).setWidth 8) := rfl

theorem readRegister_35 :
    readRegister ctx sys tm 0x35 =
      .ok (((extMem sys.ramsize >>> 24) &&& 0xFF).setWidth 8) := rfl

theorem readRegister_5B :
    readRegister ctx sys tm 0x5B =
      .ok (((highMem sys.ramsize >>> 16) &&& 0xFF).setWidth 8) := rfl

theorem readRegister_5C :
    readRegister ctx sys tm 0x5C =
      .ok (((highMem sys.ramsize >>> 24) &&& 0xFF).setWidth 8) := rfl

theorem readRegister_5D :
    readRegister ctx sys tm 0x5D =
      .ok (((highMem sys.ramsize >>> 32) &&& 0xFF).setWidth 8) := rfl

/-- The two bytes below 4G are put together again. -/
theorem memoryBelow4G_eq {rest : Uint64}
    (whole : 65536 ∣ rest.toNat) (small : rest.toNat < 4294967296) :
    memoryBelow4G (((rest >>> 16) &&& 0xFF).setWidth 8)
        (((rest >>> 24) &&& 0xFF).setWidth 8) =
      16 * 1048576 + rest.toNat := by
  unfold memoryBelow4G
  rw [toNat_byteFrom, toNat_byteFrom]
  simp only [Nat.shiftRight_eq_div_pow]
  omega

/-- And the three bytes above. -/
theorem memoryAbove4G_eq {rest : Uint64}
    (whole : 65536 ∣ rest.toNat) (small : rest.toNat < 1099511627776) :
    memoryAbove4G (((rest >>> 16) &&& 0xFF).setWidth 8)
        (((rest >>> 24) &&& 0xFF).setWidth 8)
        (((rest >>> 32) &&& 0xFF).setWidth 8) =
      rest.toNat := by
  unfold memoryAbove4G
  rw [toNat_byteFrom, toNat_byteFrom, toNat_byteFrom]
  simp only [Nat.shiftRight_eq_div_pow]
  omega

/-- From 16M on, the lower registers give the end of the RAM below 4G. -/
theorem regionAt_low {ramEnd : Uint64} (enough : 0x1000000 ≤ ramEnd) :
    ∃ region, regionAt (upperRegions ramEnd) 0x100000 = some region ∧
      region.stop.toNat = 16 * 1048576 + (extMem ramEnd).toNat := by
  unfold upperRegions extMem
  by_cases small : ramEnd ≤ 0xE0000000
  · rw [if_pos small, if_neg (by bv_omega)]
    refine ⟨_, rfl, ?_⟩
    change (0x100000 + (ramEnd - 0x100000)).toNat = _
    bv_omega
  · rw [if_neg small, if_pos (by bv_omega)]
    exact ⟨_, rfl, rfl⟩

/-- The upper registers give the size of the RAM above 4G. -/
theorem regionAt_high {ramEnd : Uint64}
    (whole : 1048576 ∣ ramEnd.toNat) :
    (regionAt (upperRegions ramEnd) 0x100000000).elim 0
        (fun region => region.size.toNat) = (highMem ramEnd).toNat := by
  unfold upperRegions highMem
  by_cases low : ramEnd ≤ 0xE0000000
  · rw [if_pos low, if_pos low]
    rfl
  · rw [if_neg low, if_neg low]
    change (ramEnd - 0xE0100000).toNat = _
    bv_omega

theorem extMem_bounds {ramEnd : Uint64} (enough : 0x1000000 ≤ ramEnd)
    (whole : 1048576 ∣ ramEnd.toNat) :
    65536 ∣ (extMem ramEnd).toNat ∧
      (extMem ramEnd).toNat < 4294967296 := by
  unfold extMem
  by_cases large : 0xE0000000 < ramEnd
  · rw [if_pos large]
    exact ⟨by decide, by decide⟩
  · rw [if_neg large]
    have difference :
        (ramEnd - 16 * 1024 * 1024).toNat = ramEnd.toNat - 16777216 := by
      bv_omega
    rw [difference]
    exact ⟨by omega, by bv_omega⟩

theorem highMem_bounds {ramEnd : Uint64}
    (whole : 1048576 ∣ ramEnd.toNat)
    (expressible : ramEnd.toNat < 1099511627776 + 3759144960) :
    65536 ∣ (highMem ramEnd).toNat ∧
      (highMem ramEnd).toNat < 1099511627776 := by
  unfold highMem
  by_cases low : ramEnd ≤ 0xE0000000
  · rw [if_pos low]
    exact ⟨by decide, by decide⟩
  · rw [if_neg low]
    have difference :
        (ramEnd - 0xE0000000 - 0x100000).toNat =
          ramEnd.toNat - 3759144960 := by
      bv_omega
    rw [difference]
    exact ⟨by omega, by omega⟩

/-- For every size that the registers can express, they give the memory that
`map_ram` maps. -/
theorem cmos_memory_size {uNumMegsRAM : Uint32}
    (enough : 16 ≤ uNumMegsRAM.toNat)
    (expressible : 3585 < uNumMegsRAM.toNat →
      (uNumMegsRAM.toNat - 3585) * 1048576 < 1099511627776)
    (ctx : Ctx) (tm : Tm) (kvm : Kvm) (blocks : Fin 4 → Uint64)
    (sys : Sys) :
    let ram := mapRam kvm blocks sys uNumMegsRAM
    let mapped := mappedByMapRam kvm blocks sys uNumMegsRAM
    ∃ reg34 reg35 reg5B reg5C reg5D,
      (readRegister ctx ram tm 0x34 = .ok reg34 ∧
          readRegister ctx ram tm 0x35 = .ok reg35 ∧
          readRegister ctx ram tm 0x5B = .ok reg5B ∧
          readRegister ctx ram tm 0x5C = .ok reg5C ∧
          readRegister ctx ram tm 0x5D = .ok reg5D) ∧
        (∃ region, regionAt mapped 0x100000 = some region ∧
          memoryBelow4G reg34 reg35 = region.stop.toNat) ∧
        memoryAbove4G reg5B reg5C reg5D =
          (regionAt mapped 0x100000000).elim 0
            fun region => region.size.toNat := by
  intro ram mapped
  have bytes := toNat_ramBytes uNumMegsRAM
  have regions : mapped = ramRegions uNumMegsRAM := mappedByMapRam_eq
  have whole : 1048576 ∣ (ramBytes uNumMegsRAM).toNat :=
    ⟨uNumMegsRAM.toNat, by omega⟩
  refine ⟨_, _, _, _, _,
    ⟨readRegister_34, readRegister_35, readRegister_5B, readRegister_5C,
      readRegister_5D⟩, ?_, ?_⟩
  · have above : 0x1000000 ≤ ramBytes uNumMegsRAM := by bv_omega
    obtain ⟨region, found, stop⟩ := regionAt_low above
    have bounds := extMem_bounds above whole
    refine ⟨region, ?_, ?_⟩
    · rw [regions]
      exact found
    · rw [stop]
      change memoryBelow4G
        (((extMem (ramBytes uNumMegsRAM) >>> 16) &&& 0xFF).setWidth 8)
        (((extMem (ramBytes uNumMegsRAM) >>> 24) &&& 0xFF).setWidth 8) = _
      exact memoryBelow4G_eq bounds.1 bounds.2
  · have size := regionAt_high whole
    have bounds := highMem_bounds whole (by omega)
    have found :
        regionAt mapped 0x100000000 =
          regionAt (upperRegions (ramBytes uNumMegsRAM)) 0x100000000 := by
      rw [regions]
      rfl
    rw [found, size]
    change memoryAbove4G
      (((highMem (ramBytes uNumMegsRAM) >>> 16) &&& 0xFF).setWidth 8)
      (((highMem (ramBytes uNumMegsRAM) >>> 24) &&& 0xFF).setWidth 8)
      (((highMem (ramBytes uNumMegsRAM) >>> 32) &&& 0xFF).setWidth 8) = _
    exact memoryAbove4G_eq bounds.1 bounds.2

/-- With the 8 gigabytes that `main` asks for, on both sides of the hole. -/
theorem cmos_memory_size_main :
    ∃ reg34 reg35 reg5B reg5C reg5D,
      (∃ region,
          regionAt
              (mappedByMapRam (fun _ _ => true) (fun _ => 0) Sys.cleared
                8192) 0x100000 = some region ∧
            memoryBelow4G reg34 reg35 = region.stop.toNat) ∧
        memoryAbove4G reg5B reg5C reg5D =
          (regionAt
            (mappedByMapRam (fun _ _ => true) (fun _ => 0) Sys.cleared
              8192) 0x100000000).elim 0
            fun region => region.size.toNat := by
  obtain ⟨reg34, reg35, reg5B, reg5C, reg5D, -, low, high⟩ :=
    @cmos_memory_size 8192 (by decide) (by decide) x86CmosInit
      ⟨0, 0, 0, 1, 0, 100⟩ (fun _ _ => true) (fun _ => 0) Sys.cleared
  exact ⟨reg34, reg35, reg5B, reg5C, reg5D, low, high⟩

end Size

end Kvmulate.Cmos
