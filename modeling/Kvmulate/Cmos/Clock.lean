import Kvmulate.Cmos
import Kvmulate.Lib.Run

/-!
# The clock of the CMOS

A guest selects the clock registers one after the other, reads them, and
decodes their bytes by the mode bits of status register B.
-/

namespace Kvmulate.Cmos

open DeviceLib Kvmulate.System

/-! ## The time -/

/-- What `localtime` delivers; a leap second is the 60th. -/
structure LocalTime extends Tm where
  secRange : 0 ≤ sec ∧ sec ≤ 60
  minRange : 0 ≤ min ∧ min ≤ 59
  hourRange : 0 ≤ hour ∧ hour ≤ 23
  mdayRange : 1 ≤ mday ∧ mday ≤ 31
  monRange : 0 ≤ mon ∧ mon ≤ 11

/-- A date and a time of day, with the full year and the months from 1. -/
structure DateTime where
  second : Int
  minute : Int
  hour : Int
  day : Int
  month : Int
  year : Int
deriving DecidableEq, Repr

/-- `tm_year` counts from 1900, `tm_mon` from 0. -/
def Tm.dateTime (tm : Tm) : DateTime where
  second := tm.sec
  minute := tm.min
  hour := tm.hour
  day := tm.mday
  month := tm.mon + 1
  year := tm.year + 1900

/-! ## What a guest does -/

/-- Select a register and read it, as part of a longer sequence. -/
def readNext (sys : Sys) (tm : Tm) : Call Ctx Uint8 Uint8
  | ctx, reg => do
      let selected ← cmosOutb ctx 0 reg
      cmosInb selected sys tm 1

/-- The registers of seconds, minutes, hours, day, month, year and century. -/
def clockRegs : List Uint8 := [0x00, 0x02, 0x04, 0x07, 0x08, 0x09, 0x32]

def decodeByte (statusB val : Uint8) : Int :=
  if statusB &&& statusBBcdBin ≠ 0 then val.toNat
  else 10 * (val >>> 4).toNat + (val &&& 0xF).toNat

/-- In 12-hour mode bit 7 is PM, and 12 stands for 0. -/
def decodeHour (statusB val : Uint8) : Int :=
  if statusB &&& statusB24H ≠ 0 then decodeByte statusB val
  else
    decodeByte statusB (val &&& 0x7F) % 12 +
      if val &&& 0x80 ≠ 0 then 12 else 0

/-- The bytes in the order of `clockRegs`. -/
def decodeClock (statusB : Uint8) : List Uint8 → Option DateTime
  | [sec, min, hour, mday, mon, year, century] =>
      some
        { second := decodeByte statusB sec
          minute := decodeByte statusB min
          hour := decodeHour statusB hour
          day := decodeByte statusB mday
          month := decodeByte statusB mon
          year :=
            100 * decodeByte statusB century + decodeByte statusB year }
  | _ => none

/-! ## One byte -/

section Byte

variable {ctx : Ctx} {val : Uint8}

/-- Up to 159 the tens fit into the high digit. -/
theorem toNat_dec2bcd (small : val.toNat < 160) :
    (dec2bcd val).toNat = 16 * (val.toNat / 10) + val.toNat % 10 := by
  have digit : val.toNat % 10 < 2 ^ 4 := by
    omega
  unfold dec2bcd
  rw [BitVec.toNat_or, BitVec.toNat_shiftLeft, BitVec.toNat_udiv,
    BitVec.toNat_umod]
  change (val.toNat / 10) <<< 4 % 256 ||| val.toNat % 10 = _
  rw [Nat.mod_eq_of_lt (by rw [Nat.shiftLeft_eq]; omega),
    ← Nat.shiftLeft_add_eq_or_of_lt digit, Nat.shiftLeft_eq]
  omega

/-- In both modes the value is found again. -/
theorem decodeByte_bin2bcd (small : val.toNat < 100) :
    decodeByte ctx.rtc.statusB (bin2bcd ctx val) = val.toNat := by
  unfold decodeByte bin2bcd
  by_cases binary : ctx.rtc.statusB &&& statusBBcdBin ≠ 0
  · rw [if_pos binary, if_pos binary]
  · have encoded := toNat_dec2bcd (by omega : val.toNat < 160)
    have low : (dec2bcd val &&& 0xF).toNat = (dec2bcd val).toNat % 16 :=
      (BitVec.toNat_and _ _).trans (Nat.and_two_pow_sub_one_eq_mod _ 4)
    have high :
        (dec2bcd val >>> 4).toNat = (dec2bcd val).toNat / 16 := by
      rw [BitVec.toNat_ushiftRight, Nat.shiftRight_eq_div_pow]
    rw [if_neg binary, if_neg binary, low, high, encoded]
    omega

/-- A value of `struct tm` in a byte. -/
theorem decodeByte_ofInt {field : Int} (low : 0 ≤ field)
    (high : field < 100) :
    decodeByte ctx.rtc.statusB (bin2bcd ctx (BitVec.ofInt 8 field)) =
      field := by
  have cut : (BitVec.ofInt 8 field : Uint8).toNat = field.toNat := by
    rw [BitVec.toNat_ofInt]
    omega
  rw [decodeByte_bin2bcd (by rw [cut]; omega), cut]
  omega

/-- An hour on the dial leaves bit 7 free. -/
theorem bin2bcd_dial (small : val.toNat < 24) :
    (bin2bcd ctx val) &&& 0x80 = 0 ∧
      (bin2bcd ctx val) &&& 0x7F = bin2bcd ctx val := by
  have below : (bin2bcd ctx val).toNat < 0x80 := by
    unfold bin2bcd
    by_cases binary : ctx.rtc.statusB &&& statusBBcdBin ≠ 0
    · rw [if_pos binary]
      omega
    · have encoded := toNat_dec2bcd (by omega : val.toNat < 160)
      rw [if_neg binary, encoded]
      omega
  have kept : (bin2bcd ctx val) &&& 0x7F = bin2bcd ctx val := by
    apply BitVec.eq_of_toNat_eq
    rw [BitVec.toNat_and]
    change (bin2bcd ctx val).toNat &&& (2 ^ 7 - 1) = _
    rw [Nat.and_two_pow_sub_one_eq_mod]
    exact Nat.mod_eq_of_lt below
  refine ⟨?_, kept⟩
  rw [← kept, BitVec.and_assoc]
  exact BitVec.and_zero

/-- A byte that bit 7 is not set in. -/
theorem decodeHour_morning (dial : ctx.rtc.statusB &&& statusB24H = 0)
    (small : val.toNat < 24) :
    decodeHour ctx.rtc.statusB (bin2bcd ctx val) = val.toNat % 12 := by
  rcases @bin2bcd_dial ctx val small with ⟨clear, kept⟩
  unfold decodeHour
  rw [if_neg (not_not_intro dial), if_neg (not_not_intro clear), kept,
    decodeByte_bin2bcd (by omega), Int.add_zero]

theorem decodeHour_afternoon (dial : ctx.rtc.statusB &&& statusB24H = 0)
    (small : val.toNat < 24) :
    decodeHour ctx.rtc.statusB (0x80 ||| bin2bcd ctx val) =
      val.toNat % 12 + 12 := by
  rcases @bin2bcd_dial ctx val small with ⟨clear, kept⟩
  have marked : (0x80 ||| bin2bcd ctx val) &&& 0x80 ≠ 0 := by
    rw [BitVec.and_or_distrib_right, clear]
    decide
  have stripped :
      (0x80 ||| bin2bcd ctx val) &&& 0x7F = bin2bcd ctx val := by
    rw [BitVec.and_or_distrib_right, kept]
    exact BitVec.zero_or
  unfold decodeHour
  rw [if_neg (not_not_intro dial), if_pos marked, stripped,
    decodeByte_bin2bcd (by omega)]

end Byte

/-! ## The whole clock -/

section Clock

variable {ctx : Ctx} {time : LocalTime}

/-- The time as the registers show it: noon is midnight on the dial, and the
century is missing. -/
def shownTime (statusB : Uint8) (tm : Tm) : DateTime :=
  { tm.dateTime with
    hour :=
      if statusB &&& statusB24H = 0 ∧ tm.hour = 12 then 0 else tm.hour
    year := tm.year }

theorem decodeHour_readHour :
    decodeHour ctx.rtc.statusB (readHour ctx time.toTm) =
      (shownTime ctx.rtc.statusB time.toTm).hour := by
  have range := time.hourRange
  have cut : (BitVec.ofInt 8 time.hour : Uint8).toNat =
      time.hour.toNat := by
    rw [BitVec.toNat_ofInt]
    omega
  unfold readHour shownTime
  by_cases dial : ctx.rtc.statusB &&& statusB24H = 0
  · by_cases afternoon : (12 : Uint8) < BitVec.ofInt 8 time.hour
    · have late : 12 < time.hour.toNat := by
        rw [← cut]
        exact afternoon
      have clock :
          ((BitVec.ofInt 8 time.hour : Uint8) - 12).toNat =
            time.hour.toNat - 12 := by
        rw [BitVec.toNat_sub, cut]
        change (2 ^ 8 - 12 + _) % 2 ^ 8 = _
        omega
      simp only [if_pos (And.intro dial afternoon)]
      rw [decodeHour_afternoon dial (by omega), clock,
        if_neg (by omega)]
      omega
    · have early : time.hour.toNat ≤ 12 := by
        rw [← cut]
        exact Nat.le_of_not_lt afternoon
      simp only [if_neg fun both : _ ∧ _ => afternoon both.2]
      rw [decodeHour_morning dial (by omega), cut]
      by_cases noon : time.hour = 12
      · rw [if_pos ⟨dial, noon⟩]
        omega
      · rw [if_neg fun both => noon both.2]
        omega
  · simp only [if_neg fun both : _ ∧ _ => dial both.1]
    unfold decodeHour
    rw [if_pos dial, decodeByte_ofInt range.1 (by omega)]

/-- The year from 2000 on is told apart from the one before by 100. -/
theorem decodeByte_readYear (from2000 : 100 ≤ time.year)
    (to2099 : time.year ≤ 199) :
    decodeByte ctx.rtc.statusB (readYear ctx time.toTm) =
      time.year - 100 := by
  have cut : (BitVec.ofInt 8 time.year : Uint8).toNat =
      time.year.toNat := by
    rw [BitVec.toNat_ofInt]
    omega
  have late : (100 : Uint8) ≤ BitVec.ofInt 8 time.year := by
    change 100 ≤ (BitVec.ofInt 8 time.year : Uint8).toNat
    omega
  have rest :
      ((BitVec.ofInt 8 time.year : Uint8) - 100).toNat =
        time.year.toNat - 100 := by
    rw [BitVec.toNat_sub, cut]
    change (2 ^ 8 - 100 + _) % 2 ^ 8 = _
    omega
  unfold readYear
  simp only [if_pos late]
  rw [decodeByte_bin2bcd (by omega), rest]
  omega

/-- The register of the century holds 1 instead of 20. -/
theorem decodeByte_readCentury (from2000 : 100 ≤ time.year)
    (to2099 : time.year ≤ 199) :
    decodeByte ctx.rtc.statusB (readCentury ctx time.toTm) = 1 := by
  have late : (100 : Uint8) ≤ BitVec.ofInt 8 time.year := by
    change 100 ≤ (BitVec.ofInt 8 time.year : Uint8).toNat
    rw [BitVec.toNat_ofInt]
    omega
  unfold readCentury
  simp only [if_pos late]
  exact decodeByte_bin2bcd (by decide)

/-- Seven reads at one time, in the order of the registers. -/
theorem run_readClock (ctx : Ctx) (sys : Sys) (tm : Tm) :
    run (readNext sys tm) ctx clockRegs =
      .ok
        ([bin2bcd ctx (BitVec.ofInt 8 tm.sec),
            bin2bcd ctx (BitVec.ofInt 8 tm.min), readHour ctx tm,
            bin2bcd ctx (BitVec.ofInt 8 tm.mday),
            bin2bcd ctx (BitVec.ofInt 8 (tm.mon + 1)), readYear ctx tm,
            readCentury ctx tm],
          { ctx with indexreg := 0x32 }) := rfl

/-- From 2000 to 2099, in every mode, a guest recovers the time but for the
noon of the 12-hour mode and the century, which no year is without. -/
theorem clock_decoded (ctx : Ctx) (sys : Sys) (time : LocalTime)
    (from2000 : 100 ≤ time.year) (to2099 : time.year ≤ 199) :
    ∃ bytes final,
      run (readNext sys time.toTm) ctx clockRegs = .ok (bytes, final) ∧
        decodeClock ctx.rtc.statusB bytes =
          some (shownTime ctx.rtc.statusB time.toTm) ∧
        decodeClock ctx.rtc.statusB bytes ≠ some time.dateTime := by
  have shown :
      decodeClock ctx.rtc.statusB
          [bin2bcd ctx (BitVec.ofInt 8 time.sec),
            bin2bcd ctx (BitVec.ofInt 8 time.min), readHour ctx time.toTm,
            bin2bcd ctx (BitVec.ofInt 8 time.mday),
            bin2bcd ctx (BitVec.ofInt 8 (time.mon + 1)),
            readYear ctx time.toTm, readCentury ctx time.toTm] =
        some (shownTime ctx.rtc.statusB time.toTm) := by
    have second := time.secRange
    have minute := time.minRange
    have day := time.mdayRange
    have month := time.monRange
    have year :
        100 * decodeByte ctx.rtc.statusB (readCentury ctx time.toTm) +
            decodeByte ctx.rtc.statusB (readYear ctx time.toTm) =
          time.year := by
      rw [decodeByte_readCentury from2000 to2099,
        decodeByte_readYear from2000 to2099]
      omega
    simp only [decodeClock]
    rw [decodeByte_ofInt second.1 (by omega),
      decodeByte_ofInt minute.1 (by omega), decodeHour_readHour,
      decodeByte_ofInt (by omega) (by omega),
      decodeByte_ofInt (by omega) (by omega), year]
    rfl
  refine ⟨_, _, run_readClock ctx sys time.toTm, shown, ?_⟩
  intro recovered
  have same : shownTime ctx.rtc.statusB time.toTm = time.dateTime :=
    Option.some.inj (shown.symm.trans recovered)
  have year : time.year = time.year + 1900 :=
    congrArg DateTime.year same
  omega

/-- The noon of 1 March 2026. -/
def noon2026 : LocalTime where
  sec := 0
  min := 0
  hour := 12
  mday := 1
  mon := 2
  year := 126
  secRange := by decide
  minRange := by decide
  hourRange := by decide
  mdayRange := by decide
  monRange := by decide

theorem clock_decoded_noon :
    ∃ bytes final,
      run (readNext Sys.cleared noon2026.toTm) x86CmosInit clockRegs =
          .ok (bytes, final) ∧
        decodeClock 0 bytes = some ⟨0, 0, 0, 1, 3, 126⟩ ∧
        decodeClock 0 bytes ≠ some ⟨0, 0, 12, 1, 3, 2026⟩ :=
  clock_decoded x86CmosInit Sys.cleared noon2026 (by decide) (by decide)

/-- The clock that a guest finds is not the one of the host. -/
theorem clock_not_always_recovered :
    ¬ ∀ (ctx : Ctx) (sys : Sys) (time : LocalTime),
      100 ≤ time.year → time.year ≤ 199 →
        ∃ bytes final,
          run (readNext sys time.toTm) ctx clockRegs =
              .ok (bytes, final) ∧
            decodeClock ctx.rtc.statusB bytes = some time.dateTime := by
  intro always
  rcases always x86CmosInit Sys.cleared noon2026 (by decide) (by decide)
    with ⟨bytes, final, ran, recovered⟩
  cases (run_readClock _ _ _).symm.trans ran
  exact absurd recovered (by decide)

end Clock

end Kvmulate.Cmos
