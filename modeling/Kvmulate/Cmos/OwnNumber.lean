import Kvmulate.Cmos.Registers

/-!
# Registers that hold their own number

A read of the index port delivers the selected register.  That is the index
only where the register happens to hold its own number.
-/

namespace Kvmulate.Cmos

open DeviceLib Kvmulate.System

/-- The value of the selected register is its number.  The branches are those
of `cmos_inb`; a register with a constant differs from its number. -/
def ShowsItself (ctx : Ctx) (sys : Sys) (tm : Tm) : Prop :=
  if ctx.indexreg = 0x00 then tm.sec = 0
  else if ctx.indexreg = 0x01 then False
  else if ctx.indexreg = 0x03 then False
  else if ctx.indexreg = 0x05 then False
  else if ctx.indexreg = 0x02 then tm.min = 2
  else if ctx.indexreg = 0x04 then tm.hour = 4
  else if ctx.indexreg = 0x07 then tm.mday = 7
  else if ctx.indexreg = 0x08 then tm.mon = 7
  else if ctx.indexreg = 0x09 then
    -- 1909 and 2009, and what a byte does not tell from them
    tm.year % 256 = 9 ∨ tm.year % 256 = 109
  else if ctx.indexreg = 0x0A then False
  else if ctx.indexreg = 0x0B then False
  else if ctx.indexreg = 0x0C then ctx.rtc.statusC = 0x0C
  else if ctx.indexreg = 0x0D then False
  else if ctx.indexreg = 0x0F then ctx.resetcode = 0x0F
  else if ctx.indexreg = 0x10 then False
  else if ctx.indexreg = 0x12 then False
  else if ctx.indexreg = 0x13 then False
  else if ctx.indexreg = 0x17 then False
  else if ctx.indexreg = 0x18 then False
  else if ctx.indexreg = 0x32 then False
  else if ctx.indexreg = 0x30 then
    (extMem sys.ramsize >>> 10).setWidth 8 = (0x30 : Uint8)
  else if ctx.indexreg = 0x31 then
    (extMem sys.ramsize >>> 18).setWidth 8 = (0x31 : Uint8)
  else if ctx.indexreg = 0x34 then
    ((extMem sys.ramsize >>> 16) &&& 0xFF).setWidth 8 = (0x34 : Uint8)
  else if ctx.indexreg = 0x35 then
    ((extMem sys.ramsize >>> 24) &&& 0xFF).setWidth 8 = (0x35 : Uint8)
  else if ctx.indexreg = 0x38 then False
  else if ctx.indexreg = 0x39 then False
  else if ctx.indexreg = 0x3D then False
  else if ctx.indexreg = 0x5B then
    ((highMem sys.ramsize >>> 16) &&& 0xFF).setWidth 8 = (0x5B : Uint8)
  else if ctx.indexreg = 0x5C then
    ((highMem sys.ramsize >>> 24) &&& 0xFF).setWidth 8 = (0x5C : Uint8)
  else if ctx.indexreg = 0x5D then
    ((highMem sys.ramsize >>> 32) &&& 0xFF).setWidth 8 = (0x5D : Uint8)
  else False

section Values

variable {ctx : Ctx} {sys : Sys} {time : LocalTime}

theorem bin2bcd_of_settled (settled : Settled ctx) (val : Uint8) :
    bin2bcd ctx val = dec2bcd val := by
  have bcd : ¬ ctx.rtc.statusB &&& statusBBcdBin ≠ 0 := by
    rw [settled.statusB]
    decide
  exact if_neg bcd

/-- A single digit is encoded as itself, and nothing else is. -/
theorem dec2bcd_eq_iff {val : Uint8} (small : val.toNat < 160)
    {digit : Uint8} (single : digit.toNat < 10) :
    dec2bcd val = digit ↔ val.toNat = digit.toNat := by
  have encoded := toNat_dec2bcd small
  constructor
  · intro same
    rw [same] at encoded
    omega
  · intro same
    apply BitVec.eq_of_toNat_eq
    rw [encoded]
    omega

theorem field_eq_iff (settled : Settled ctx) {field : Int}
    (low : 0 ≤ field) (high : field < 100) {digit : Uint8}
    (single : digit.toNat < 10) :
    bin2bcd ctx (BitVec.ofInt 8 field) = digit ↔
      field = digit.toNat := by
  have cut : (BitVec.ofInt 8 field : Uint8).toNat = field.toNat := by
    rw [BitVec.toNat_ofInt]
    omega
  rw [bin2bcd_of_settled settled, dec2bcd_eq_iff (by omega) single, cut]
  omega

theorem readHour_eq_iff (settled : Settled ctx) :
    readHour ctx time.toTm = 0x04 ↔ time.hour = 4 := by
  have range := time.hourRange
  have decoded := @decodeHour_readHour ctx time
  rw [settled.statusB] at decoded
  constructor
  · intro shown
    rw [shown] at decoded
    have four : decodeHour 0 0x04 = 4 := by decide
    rw [four] at decoded
    simp only [shownTime] at decoded
    by_cases noon : (0 : Uint8) &&& statusB24H = 0 ∧ time.hour = 12
    · rw [if_pos noon] at decoded
      omega
    · rw [if_neg noon] at decoded
      omega
  · intro four
    unfold readHour
    simp only [four, settled.statusB, bin2bcd_of_settled settled]
    decide

theorem readYear_eq_iff (settled : Settled ctx) {tm : Tm} :
    readYear ctx tm = 0x09 ↔
      tm.year % 256 = 9 ∨ tm.year % 256 = 109 := by
  have cut : ((BitVec.ofInt 8 tm.year : Uint8).toNat : Int) =
      tm.year % 256 := by
    rw [BitVec.toNat_ofInt]
    omega
  have bound := (BitVec.ofInt 8 tm.year : Uint8).isLt
  unfold readYear
  simp only [bin2bcd_of_settled settled]
  by_cases late : (100 : Uint8) ≤ BitVec.ofInt 8 tm.year
  · have least : 100 ≤ (BitVec.ofInt 8 tm.year : Uint8).toNat := late
    have rest :
        ((BitVec.ofInt 8 tm.year : Uint8) - 100).toNat =
          (BitVec.ofInt 8 tm.year : Uint8).toNat - 100 := by
      bv_omega
    rw [if_pos late, dec2bcd_eq_iff (by omega) (by decide), rest]
    change _ = 9 ↔ _
    omega
  · have below : (BitVec.ofInt 8 tm.year : Uint8).toNat < 100 :=
      Nat.lt_of_not_le late
    rw [if_neg late, dec2bcd_eq_iff (by omega) (by decide)]
    change _ = 9 ↔ _
    omega

theorem readCentury_ne (settled : Settled ctx) (tm : Tm) :
    readCentury ctx tm ≠ 0x32 := by
  unfold readCentury
  simp only [bin2bcd_of_settled settled]
  by_cases late : (100 : Uint8) ≤ BitVec.ofInt 8 tm.year
  · rw [if_pos late]
    decide
  · rw [if_neg late]
    decide

/-- One branch of `cmos_inb` and of `ShowsItself`. -/
theorem shows_branch {reg key value : Uint8} {before after : Ctx}
    {rest : Outcome (Uint8 × Ctx)} {shows others : Prop}
    (same : after = before) (here : value = key ↔ shows)
    (later : rest = .ok (reg, before) ↔ others) :
    (if reg = key then pure (value, after) else rest) =
        .ok (reg, before) ↔
      if reg = key then shows else others := by
  by_cases selected : reg = key
  · rw [if_pos selected, if_pos selected, selected, same, ← here]
    constructor
    · intro shown
      cases shown
      rfl
    · intro shown
      rw [shown]
      rfl
  · rw [if_neg selected, if_neg selected]
    exact later

/-- What the index port delivers. -/
theorem cmosInb_index_iff (settled : Settled ctx) (sys : Sys)
    (time : LocalTime) :
    cmosInb ctx sys time.toTm 0 = .ok (ctx.indexreg, ctx) ↔
      ShowsItself ctx sys time.toTm := by
  have second := time.secRange
  have minute := time.minRange
  have day := time.mdayRange
  have month := time.monRange
  have constant : ∀ {value key : Uint8}, value ≠ key →
      (value = key ↔ False) := fun different => iff_false_intro different
  have regB : ctx.rtc.statusB ≠ 0x0B := by
    rw [settled.statusB]
    decide
  have regD : ctx.rtc.statusD ≠ 0x0D := by
    rw [settled.statusD]
    decide
  have refused :
      (.error .abort : Outcome (Uint8 × Ctx)) = .ok (ctx.indexreg, ctx) ↔
        False := iff_false_intro (fun stopped => nomatch stopped)
  have monthShown :
      bin2bcd ctx (BitVec.ofInt 8 (time.mon + 1)) = 0x08 ↔
        time.mon = 7 := by
    rw [field_eq_iff settled (by omega) (by omega) (by decide)]
    change _ = 8 ↔ _
    omega
  unfold cmosInb ShowsItself
  rw [if_neg (by decide)]
  refine shows_branch rfl
    (field_eq_iff settled second.1 (by omega) (by decide)) ?_
  refine shows_branch rfl (constant (by decide)) ?_
  refine shows_branch rfl (constant (by decide)) ?_
  refine shows_branch rfl (constant (by decide)) ?_
  refine shows_branch rfl
    (field_eq_iff settled minute.1 (by omega) (by decide)) ?_
  refine shows_branch rfl (readHour_eq_iff settled) ?_
  refine shows_branch rfl
    (field_eq_iff settled (by omega) (by omega) (by decide)) ?_
  refine shows_branch rfl monthShown ?_
  refine shows_branch rfl (readYear_eq_iff settled) ?_
  refine shows_branch (readStatusA_state settled)
    (constant (by decide)) ?_
  refine shows_branch rfl (constant regB) ?_
  refine shows_branch rfl Iff.rfl ?_
  refine shows_branch rfl (constant regD) ?_
  refine shows_branch rfl Iff.rfl ?_
  refine shows_branch rfl (constant (by decide)) ?_
  refine shows_branch rfl (constant (by decide)) ?_
  refine shows_branch rfl (constant (by decide)) ?_
  refine shows_branch rfl (constant (by decide)) ?_
  refine shows_branch rfl (constant (by decide)) ?_
  refine shows_branch rfl (constant (readCentury_ne settled _)) ?_
  refine shows_branch rfl Iff.rfl ?_
  refine shows_branch rfl Iff.rfl ?_
  refine shows_branch rfl Iff.rfl ?_
  refine shows_branch rfl Iff.rfl ?_
  refine shows_branch rfl (constant (by decide)) ?_
  refine shows_branch rfl (constant (by decide)) ?_
  refine shows_branch rfl (constant (by decide)) ?_
  refine shows_branch rfl Iff.rfl ?_
  refine shows_branch rfl Iff.rfl ?_
  refine shows_branch rfl Iff.rfl ?_
  have last :=
    @shows_branch ctx.indexreg 0x5F 0 _ _ _ _ _ rfl
      (constant (by decide)) refused
  rw [ite_self] at last
  exact last

end Values

end Kvmulate.Cmos
