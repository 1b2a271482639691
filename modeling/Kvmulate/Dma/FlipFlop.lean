import Kvmulate.I8237

/-!
# Clearing the flip-flops

What the two bytes of a register become when the guest clears the flip-flops of
a controller before it programs one of its registers, and before it reads the
register back.
-/

namespace Kvmulate.I8237

open DeviceLib

/-! ## One clear -/

section Clear

variable {dma : Controllers} {ctl : Fin 2} {register : Nat}
variable {flip : Uint32}

/-- The port that clears the flip-flops of a controller. -/
def clearPort (ctl : Fin 2) : Uint16 :=
  if ctl.val = 0 then 0x0C else 0xD8

/-- The port of a register. -/
def registerPort (ctl : Fin 2) (register : Fin 8) : Uint16 :=
  if ctl.val = 0 then BitVec.ofNat 16 register.val
  else 0xC0 + 2 * BitVec.ofNat 16 register.val

theorem registerAt_registerPort :
    ∀ (ctl : Fin 2) (register : Fin 8),
      registerAt (registerPort ctl register) =
        some (ctl, register.val) := by
  decide

/-- What clearing leaves of a flip-flop. -/
def cleared (register : Nat) (flip : Uint32) : Uint32 :=
  if register = 0 then 0
  else if register = 1 then flip &&& 0xFF000000
  else flip

theorem flipflop_of_reset (ctl : Ctl)
    (flips : ctl.flipflop.toList[register]? = some flip) :
    ctl.resetFlipflops.flipflop.toList[register]? =
      some (cleared register flip) := by
  have length : ctl.flipflop.toList.length = 7 := Vector.length_toList
  change ((ctl.flipflop.setIfInBounds 0 0).setIfInBounds 1
    (ctl.flipflop.get 1 &&& 0xFF000000)).toList[register]? = _
  rw [Vector.toList_setIfInBounds, Vector.toList_setIfInBounds]
  by_cases first : register = 0
  · subst first
    rw [List.getElem?_set_ne (by decide), List.getElem?_set_self]
    · rfl
    · rw [length]
      decide
  by_cases second : register = 1
  · subst second
    rcases List.getElem?_eq_some_iff.mp flips with ⟨bound, shown⟩
    have same : ctl.flipflop.get 1 = flip := shown
    rw [List.getElem?_set_self, same]
    · rfl
    · rw [List.length_set, length]
      decide
  · rw [List.getElem?_set_ne (Ne.symm second),
      List.getElem?_set_ne (Ne.symm first), flips, cleared, if_neg first,
      if_neg second]

theorem even_of_cleared (low : register ≤ 1) (flip : Uint32) :
    cleared register flip &&& 1 = 0 := by
  have cases : register = 0 ∨ register = 1 := by omega
  rcases cases with rfl | rfl
  · change (0 : Uint32) &&& 1 = 0
    exact BitVec.zero_and
  · change (flip &&& 0xFF000000) &&& 1 = 0
    rw [BitVec.and_assoc]
    exact BitVec.and_zero

theorem cleared_of_high (high : ¬ register ≤ 1) (flip : Uint32) :
    cleared register flip = flip := by
  have notFirst : register ≠ 0 := by omega
  have notSecond : register ≠ 1 := by omega
  rw [cleared, if_neg notFirst, if_neg notSecond]

theorem parity_after_pair (flip : Uint32) :
    (flip + 1 + 1) &&& 1 = flip &&& 1 := by
  rcases parity_cases flip with ⟨now, next⟩ | ⟨now, next⟩
  · rcases parity_cases (flip + 1) with ⟨clash, -⟩ | ⟨-, later⟩
    · rw [next] at clash
      exact absurd clash (by decide)
    · rw [later, now]
  · rcases parity_cases (flip + 1) with ⟨-, later⟩ | ⟨clash, -⟩
    · rw [later, now]
    · rw [next] at clash
      exact absurd clash (by decide)

/-- Neither a pair of accesses nor a second clear changes the order. -/
theorem ordered_again (register : Nat) (flip : Uint32)
    (first second : Uint8) :
    ordered (cleared register (cleared register flip + 1 + 1)) first
        second =
      ordered (cleared register flip) first second := by
  by_cases low : register ≤ 1
  · rw [ordered, ordered, if_pos (even_of_cleared low _),
      if_pos (even_of_cleared low _)]
  · rw [cleared_of_high low, cleared_of_high low, ordered, ordered,
      parity_after_pair]

theorem dmaStep_clear (dma : Controllers) (ctl : Fin 2) :
    dmaStep dma (.outb (clearPort ctl) 0xFF) =
      .ok (none, dma.setCtl ctl (dma.ctl ctl).resetFlipflops) := by
  rcases Fin.exists_fin_two.mp ⟨ctl, rfl⟩ with first | second
  · subst first
    rfl
  · subst second
    rfl

end Clear

/-! ## Reading a pair -/

section Pair

variable {dma : Controllers} {ctl : Fin 2} {register : Nat}
variable {address : Uint16} {flip : Uint32} {first second : Uint8}

/-- A read delivers the byte that the flip-flop selects. -/
theorem readReg_eq {ctl : Ctl} {reg : Vector Uint8 2} {val : Uint8}
    (found : ctl.regs.toList[register]? = some reg)
    (flips : ctl.flipflop.toList[register]? = some flip)
    (byte : reg.toList[(flip &&& 1).toNat]? = some val) :
    ctl.readReg register =
      .ok (val, { ctl with
        flipflop := ctl.flipflop.setIfInBounds register (flip + 1) }) := by
  have inside : Indexes 7 (register : Int) := by
    have bound := lt_of_getElem? found
    exact ⟨by omega, by omega⟩
  simp only [Ctl.readReg]
  simp only [load_eq_ok_iff.mpr found, load_eq_ok_iff.mpr flips,
    load_eq_ok_iff.mpr byte, Outcome.ok_bind, store_of_indexes inside]
  rfl

theorem ordered_bytes (flip : Uint32) (first second : Uint8) :
    (ordered flip first second).toList[(flip &&& 1).toNat]? =
        some first ∧
      (ordered flip first second).toList[((flip + 1) &&& 1).toNat]? =
        some second := by
  rcases parity_cases flip with ⟨now, later⟩ | ⟨now, later⟩
  · rw [ordered, if_pos now, now, later]
    exact ⟨rfl, rfl⟩
  · have odd : ¬ flip &&& 1 = 0 := by
      rw [now]
      decide
    rw [ordered, if_neg odd, now, later]
    exact ⟨rfl, rfl⟩

/-- The two bytes of a register, in the order of its flip-flop. -/
theorem run_readPair (found : registerAt address = some (ctl, register))
    (flips : (dma.ctl ctl).flipflop.toList[register]? = some flip)
    (bytes : (dma.ctl ctl).regs.toList[register]? =
      some (ordered flip first second)) :
    ∃ after,
      run dmaStep dma [.inb address, .inb address] =
        .ok ([some first, some second], after) := by
  have inside : register < 7 := lt_of_getElem? flips
  rcases ordered_bytes flip first second with ⟨firstByte, secondByte⟩
  let half : Ctl :=
    { dma.ctl ctl with
      flipflop := (dma.ctl ctl).flipflop.setIfInBounds register (flip + 1) }
  have firstRead : (dma.ctl ctl).readReg register = .ok (first, half) :=
    readReg_eq bytes flips firstByte
  have halfFlip : half.flipflop.toList[register]? = some (flip + 1) :=
    getElem?_stored _ inside _
  obtain ⟨full, secondRead⟩ :
      ∃ full, half.readReg register = .ok (second, full) :=
    ⟨_, readReg_eq bytes halfFlip secondByte⟩
  let middle := dma.setCtl ctl half
  have firstStep :
      dmaStep dma (.inb address) = .ok (some first, middle) := by
    rw [dmaStep_inb_of_register found, firstRead]
    rfl
  have secondStep :
      dmaStep middle (.inb address) =
        .ok (some second, middle.setCtl ctl full) := by
    rw [dmaStep_inb_of_register found, setCtl_same, secondRead]
    rfl
  exact ⟨middle.setCtl ctl full, run_cons firstStep (run_one secondStep)⟩

end Pair

/-! ## Programming and reading back -/

/-- After a clear the bytes are stored as the low and the high one, and after
another one they are read in this order. -/
def ProgramsIntended (dma : Controllers) (ctl : Fin 2) (register : Fin 8)
    (low high : Uint8) : Prop :=
  ∃ next,
    run dmaStep dma
        [.outb (clearPort ctl) 0xFF,
          .outb (registerPort ctl register) low,
          .outb (registerPort ctl register) high] =
        .ok ([none, none, none], next) ∧
      (next.ctl ctl).regs.toList[register.val]?.map Vector.toList =
          some [low, high] ∧
        ∃ last,
          run dmaStep next
              [.outb (clearPort ctl) 0xFF,
                .inb (registerPort ctl register),
                .inb (registerPort ctl register)] =
            .ok ([none, some low, some high], last)

section Intended

variable {dma : Controllers} {ctl : Fin 2} {register : Fin 8}
variable {flip : Uint32} {low high : Uint8}

/-- A register with a place gets the bytes in the order that the clear leaves,
and they are read in the order in which they were written. -/
theorem exists_programmed
    (flips : (dma.ctl ctl).flipflop.toList[register.val]? = some flip)
    (low high : Uint8) :
    ∃ next,
      run dmaStep dma
          [.outb (clearPort ctl) 0xFF,
            .outb (registerPort ctl register) low,
            .outb (registerPort ctl register) high] =
          .ok ([none, none, none], next) ∧
        (next.ctl ctl).regs.toList[register.val]? =
            some (ordered (cleared register.val flip) low high) ∧
          ∃ last,
            run dmaStep next
                [.outb (clearPort ctl) 0xFF,
                  .inb (registerPort ctl register),
                  .inb (registerPort ctl register)] =
              .ok ([none, some low, some high], last) := by
  have found := registerAt_registerPort ctl register
  have inside : register.val < 7 := lt_of_getElem? flips
  let clear := dma.setCtl ctl (dma.ctl ctl).resetFlipflops
  have clearFlips :
      (clear.ctl ctl).flipflop.toList[register.val]? =
        some (cleared register.val flip) := by
    rw [setCtl_same]
    exact flipflop_of_reset (dma.ctl ctl) flips
  obtain ⟨next, ran, -, ctlNext⟩ := run_pair found clearFlips low high
  have programmed :
      (next.ctl ctl).regs.toList[register.val]? =
        some (ordered (cleared register.val flip) low high) := by
    rw [ctlNext]
    exact getElem?_stored _ inside _
  have nextFlips :
      (next.ctl ctl).flipflop.toList[register.val]? =
        some (cleared register.val flip + 1 + 1) := by
    rw [ctlNext]
    exact getElem?_stored _ inside _
  let again := next.setCtl ctl (next.ctl ctl).resetFlipflops
  have againFlips :
      (again.ctl ctl).flipflop.toList[register.val]? =
        some (cleared register.val (cleared register.val flip + 1 + 1)) := by
    rw [setCtl_same]
    exact flipflop_of_reset (next.ctl ctl) nextFlips
  have againRegs :
      (again.ctl ctl).regs.toList[register.val]? =
        some (ordered
          (cleared register.val (cleared register.val flip + 1 + 1))
          low high) := by
    rw [setCtl_same, ordered_again]
    exact programmed
  obtain ⟨last, read⟩ := run_readPair found againFlips againRegs
  refine ⟨next, ?_, programmed, last, ?_⟩
  · exact run_cons (dmaStep_clear dma ctl) ran
  · exact run_cons (dmaStep_clear next ctl) read

theorem ordered_eq_iff :
    (ordered flip low high).toList = [low, high] ↔
      flip &&& 1 = 0 ∨ low = high := by
  by_cases even : flip &&& 1 = 0
  · rw [ordered, if_pos even]
    exact iff_of_true rfl (Or.inl even)
  · rw [ordered, if_neg even]
    constructor
    · intro same
      injection same with swapped
      exact Or.inr swapped.symm
    · intro cases
      rw [cases.resolve_left even]
      rfl

/-- The last register has no place. -/
theorem not_programsIntended_last (last : register.val = 7) :
    ¬ ProgramsIntended dma ctl register low high := by
  intro intended
  obtain ⟨next, ran, -⟩ := intended
  obtain ⟨_, clear, _, -, ranRest, -⟩ := run_cons_eq_ok_iff.mp ran
  obtain ⟨_, _, _, wrote, -, -⟩ := run_cons_eq_ok_iff.mp ranRest
  have outside : ¬ Indexes 7 (register.val : Int) := by
    intro inside
    have upper := inside.2
    omega
  rw [dmaStep_outb_of_register (registerAt_registerPort ctl register),
    writeReg_outside _ _ outside] at wrote
  cases wrote

end Intended

/-- For every state, controller, register and pair of bytes, clearing the
flip-flops makes the guest program what it intends exactly for the first two
registers, for those whose flip-flop was even, and for two equal bytes; never
for the last register. -/
theorem programsIntended_iff (dma : Controllers) (ctl : Fin 2)
    (register : Fin 8) (low high : Uint8) :
    ProgramsIntended dma ctl register low high ↔
      register.val ≠ 7 ∧
        (register.val ≤ 1 ∨ AtLow dma ctl register.val ∨ low = high) := by
  by_cases last : register.val = 7
  · exact iff_of_false (not_programsIntended_last last)
      (fun both => both.1 last)
  have inside : register.val < 7 := by omega
  obtain ⟨flip, flips⟩ :
      ∃ flip, (dma.ctl ctl).flipflop.toList[register.val]? = some flip :=
    ⟨_, List.getElem?_eq_getElem (by rwa [Vector.length_toList])⟩
  have atLow : AtLow dma ctl register.val ↔ flip &&& 1 = 0 := by
    constructor
    · intro atLow
      obtain ⟨other, shown, even⟩ := atLow
      rw [flips] at shown
      cases shown
      exact even
    · intro even
      exact ⟨flip, flips, even⟩
  have even :
      cleared register.val flip &&& 1 = 0 ↔
        register.val ≤ 1 ∨ flip &&& 1 = 0 := by
    by_cases first : register.val ≤ 1
    · exact iff_of_true (even_of_cleared first flip) (Or.inl first)
    · rw [cleared_of_high first]
      exact (or_iff_right first).symm
  obtain ⟨next, ran, programmed, read⟩ := exists_programmed flips low high
  rw [and_iff_right last, atLow, ← or_assoc, ← even, ← ordered_eq_iff]
  constructor
  · intro intended
    obtain ⟨next', ran', stored, -⟩ := intended
    rw [ran] at ran'
    cases ran'
    rw [programmed] at stored
    exact Option.some.inj stored
  · intro same
    refine ⟨next, ran, ?_, read⟩
    rw [programmed]
    exact congrArg some same

/-- One byte was read from the address register of channel 2 before. -/
theorem not_always_programsIntended :
    ∃ dma, run dmaStep Controllers.zero [.inb 0x04] = .ok ([some 0], dma) ∧
      ¬ ProgramsIntended dma 0 4 0x00 0x10 := by
  refine ⟨_, rfl, ?_⟩
  intro intended
  obtain ⟨next, ran, stored, -⟩ := intended
  cases ran
  exact absurd stored (by decide)

end Kvmulate.I8237
