import Kvmulate.Cmos.Clock

/-!
# What a guest can change in the CMOS, and what it finds

Two registers are stored, and only one of them where its reads look.  What
the guest cannot change keeps its initial value.
-/

namespace Kvmulate.Cmos

open DeviceLib Kvmulate.System

/-- The values that no access changes. -/
structure Settled (ctx : Ctx) : Prop where
  divider : ctx.rtc.divider = 32768
  rate : ctx.rtc.rate = 1024
  statusB : ctx.rtc.statusB = 0
  statusD : ctx.rtc.statusD = 0x80

/-- The context with another register selected. -/
def Ctx.select (ctx : Ctx) (reg : Uint8) : Ctx :=
  { ctx with indexreg := reg }

/-- The context with another value of register C. -/
def Ctx.storeC (ctx : Ctx) (val : Uint8) : Ctx :=
  { ctx with rtc := { ctx.rtc with statusC := val } }

/-- The registers that `cmos_inb` has a value for. -/
def readableRegs : List Uint8 :=
  [0x00, 0x01, 0x03, 0x05, 0x02, 0x04, 0x07, 0x08, 0x09, 0x0A, 0x0B, 0x0C,
    0x0D, 0x0F, 0x10, 0x12, 0x13, 0x17, 0x18, 0x32, 0x30, 0x31, 0x34, 0x35,
    0x38, 0x39, 0x3D, 0x5B, 0x5C, 0x5D, 0x5F]

section Access

variable {ctx next : Ctx} {sys : Sys} {tm : Tm} {port : Uint16}
variable {val : Uint8}

theorem settled_init : Settled x86CmosInit := ⟨rfl, rfl, rfl, rfl⟩

theorem Settled.select (settled : Settled ctx) (reg : Uint8) :
    Settled (ctx.select reg) :=
  ⟨settled.divider, settled.rate, settled.statusB, settled.statusD⟩

/-- Register A is set to what it holds. -/
theorem readStatusA_state (settled : Settled ctx) :
    (readStatusA ctx).2 = ctx := by
  rcases ctx with ⟨indexreg, resetcode, rtc⟩
  rcases rtc with ⟨divider, rate, statusB, statusC, statusD⟩
  rcases settled with ⟨sameDivider, sameRate, -, -⟩
  cases sameDivider
  cases sameRate
  rfl

/-- One branch of `cmos_inb`. -/
theorem inb_branch {reg key : Uint8} {keys : List Uint8} {value : Uint8}
    {before after : Ctx} {rest : Outcome (Uint8 × Ctx)}
    (same : after = before)
    (others : (reg ∈ keys ∧ ∃ val, rest = .ok (val, before)) ∨
      reg ∉ keys ∧ rest = .error .abort) :
    (reg ∈ key :: keys ∧
        ∃ val, (if reg = key then pure (value, after) else rest) =
          .ok (val, before)) ∨
      reg ∉ key :: keys ∧
        (if reg = key then pure (value, after) else rest) =
          .error .abort := by
  by_cases here : reg = key
  · rw [if_pos here, here, same]
    exact Or.inl ⟨List.mem_cons_self, value, rfl⟩
  · rw [if_neg here, List.mem_cons, or_iff_right here]
    exact others

/-- At the data port a readable register is read, which changes nothing; any
other one stops the process. -/
theorem cmosInb_cases (settled : Settled ctx) (sys : Sys) (tm : Tm)
    (data : port ≠ 0x70) :
    (ctx.indexreg ∈ readableRegs ∧
        ∃ val, cmosInb ctx sys tm port = .ok (val, ctx)) ∨
      ctx.indexreg ∉ readableRegs ∧
        cmosInb ctx sys tm port = .error .abort := by
  have last :
      (ctx.indexreg ∈ ([] : List Uint8) ∧
          ∃ val, (.error .abort : Outcome (Uint8 × Ctx)) =
            .ok (val, ctx)) ∨
        ctx.indexreg ∉ ([] : List Uint8) ∧
          (.error .abort : Outcome (Uint8 × Ctx)) = .error .abort :=
    Or.inr ⟨List.not_mem_nil, rfl⟩
  unfold cmosInb
  rw [if_neg data]
  unfold readableRegs
  -- One branch for each register of the list.
  repeat' apply inb_branch
  all_goals first | rfl | exact readStatusA_state settled | exact last

/-- The access that leaves register A as it is. -/
theorem writeStatusA_state (settled : Settled ctx)
    (written : writeStatusA ctx val = .ok next) : next = ctx := by
  unfold writeStatusA at written
  rcases Outcome.bind_eq_ok_iff.mp written with ⟨_, -, rest⟩
  rcases Outcome.bind_eq_ok_iff.mp rest with ⟨_, -, built⟩
  cases built
  rcases ctx with ⟨indexreg, resetcode, rtc⟩
  rcases rtc with ⟨divider, rate, statusB, statusC, statusD⟩
  rcases settled with ⟨sameDivider, sameRate, -, -⟩
  cases sameDivider
  cases sameRate
  rfl

/-- What a write to the data port leaves, if it returns. -/
theorem cmosOutb_data (settled : Settled ctx) (data : port ≠ 0)
    (written : cmosOutb ctx port val = .ok next) :
    (ctx.indexreg = 0x0B ∧
        next = ctx.storeC val) ∨
      (ctx.indexreg = 0x0F ∧ next = { ctx with resetcode := val }) ∨
        ctx.indexreg ≠ 0x0B ∧ ctx.indexreg ≠ 0x0F ∧ next = ctx := by
  unfold cmosOutb at written
  rw [if_neg data] at written
  rcases Outcome.of_ite_eq_ok written with ⟨regA, inA⟩ | ⟨-, notA⟩
  · refine Or.inr (Or.inr ⟨?_, ?_, writeStatusA_state settled inA⟩)
    · rw [regA]
      decide
    · rw [regA]
      decide
  rcases Outcome.of_ite_eq_ok notA with ⟨regB, inB⟩ | ⟨notRegB, notB⟩
  · cases inB
    exact Or.inl ⟨regB, rfl⟩
  rcases Outcome.of_ite_eq_ok notB with ⟨reset, inReset⟩ | ⟨notReset, rest⟩
  · cases inReset
    exact Or.inr (Or.inl ⟨reset, rfl⟩)
  rcases Outcome.of_ite_eq_ok rest with ⟨-, skipped⟩ | ⟨-, stopped⟩
  · cases skipped
    exact Or.inr (Or.inr ⟨notRegB, notReset, rfl⟩)
  · cases stopped

/-- A write with register B selected goes to register C. -/
theorem cmosOutb_regB (data : port ≠ 0) (selected : ctx.indexreg = 0x0B) :
    cmosOutb ctx port val = .ok (ctx.storeC val) := by
  have notA : ctx.indexreg ≠ 0x0A := by
    rw [selected]
    decide
  unfold cmosOutb
  rw [if_neg data, if_neg notA, if_pos selected]
  rfl

theorem cmosOutb_reset (data : port ≠ 0) (selected : ctx.indexreg = 0x0F) :
    cmosOutb ctx port val = .ok { ctx with resetcode := val } := by
  have notA : ctx.indexreg ≠ 0x0A := by
    rw [selected]
    decide
  have notB : ctx.indexreg ≠ 0x0B := by
    rw [selected]
    decide
  unfold cmosOutb
  rw [if_neg data, if_neg notA, if_neg notB, if_pos selected]
  rfl

theorem settled_cmosOutb (settled : Settled ctx)
    (written : cmosOutb ctx port val = .ok next) : Settled next := by
  by_cases index : port = 0
  · unfold cmosOutb at written
    rw [if_pos index] at written
    cases written
    exact ⟨settled.divider, settled.rate, settled.statusB,
      settled.statusD⟩
  · rcases cmosOutb_data settled index written with
      ⟨-, same⟩ | ⟨-, same⟩ | ⟨-, -, same⟩
    · rw [same]
      exact ⟨settled.divider, settled.rate, settled.statusB,
        settled.statusD⟩
    · rw [same]
      exact ⟨settled.divider, settled.rate, settled.statusB,
        settled.statusD⟩
    · rw [same]
      exact settled

/-- A read changes nothing, at either port. -/
theorem cmosInb_state (settled : Settled ctx)
    (read : cmosInb ctx sys tm port = .ok (val, next)) : next = ctx := by
  by_cases index : port = 0x70
  · unfold cmosInb at read
    rw [if_pos index] at read
    cases read
    rfl
  · rcases cmosInb_cases settled sys tm index with
      ⟨-, other, called⟩ | ⟨-, stopped⟩
    · rw [called] at read
      cases read
      rfl
    · rw [stopped] at read
      cases read

end Access

end Kvmulate.Cmos
