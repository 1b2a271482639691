import Kvmulate.Qemu.Paravirt

/-!
# What a selection leaves to be read

The items share one buffer and one offset.  An item replaces only as many
bytes as it has, and the number of nodes is selected without a new offset.
-/

namespace Kvmulate.Qemu

open DeviceLib

/-! ## What a guest sees of a selection -/

/-- What the guest reads when it selects a key and reads the data port. -/
def seen (ctx : Ctx) (key : Uint16) (ports : List Uint16) :
    Outcome (List (Option Uint8)) := do
  let (responses, _) ←
    run paraStep ctx (.outw 0 key :: ports.map .inb)
  pure responses

/-- An item from its first byte, and zeros behind it. -/
def expected (bytes : List Uint8) (count : Nat) :
    Outcome (List (Option Uint8)) :=
  .ok (none :: (window bytes 0 count).map some)

/-- Whatever came before, the guest sees the item. -/
def SeesItem (ctx : Ctx) (key : Uint16) (bytes : List Uint8) : Prop :=
  ∀ ports : List Uint16, ports.length ≤ bufferSize →
    seen ctx key ports = expected bytes ports.length

/-! ## What a history leaves -/

def countAfter (count : Nat) : ParaStep → Nat
  | .inb _ => count + 1
  | .outw _ key => if key = numaKey then count else 0
  | _ => count

/-- The number of bytes read since the last selection of a key other than the
number of nodes. -/
def bytesRead (history : List ParaStep) : Nat :=
  history.foldl countAfter 0

def leftAfter (left : Nat → Uint8) : ParaStep → Nat → Uint8
  | .outw _ key => fun index =>
      ((item key).getD []).getD index (left index)
  | _ => left

/-- At each place, the byte of the last selected item that is long enough. -/
def leftover (history : List ParaStep) : Nat → Uint8 :=
  history.foldl leftAfter fun _ => 0

/-- Nothing was read before the number of nodes is selected, and only zeros
were left where the item ends. -/
def Clean (history : List ParaStep) (key : Uint16)
    (bytes : List Uint8) : Prop :=
  (key = numaKey → bytesRead history = 0) ∧
    ∀ index, bytes.length ≤ index → leftover history index = 0

/-- The context is as the history says. -/
structure Matches (ctx : Ctx) (count : Nat) (left : Nat → Uint8) :
    Prop where
  off : ctx.off = count
  buff : ∀ index, ctx.buff.toList.getD index 0 = left index

/-! ## One access -/

section Step

variable {ctx next final : Ctx} {count : Nat} {left : Nat → Uint8}
variable {key : Uint16} {bytes : List Uint8} {step : ParaStep}
variable {response : Option Uint8}

/-- A supported key stores its item. -/
theorem outw_of_item (ctx : Ctx) (found : item key = some bytes) :
    ∃ buff, paraStep ctx (.outw 0 key) =
        .ok (none, ⟨key, if key = numaKey then ctx.off else 0, buff⟩) ∧
      ∀ index, buff.toList.getD index 0 =
        bytes.getD index (ctx.buff.toList.getD index 0) := by
  obtain ⟨buff, filled, list⟩ :=
    exists_fill
      (if key = numaKey then { ctx with reg := key }
        else { ctx with reg := key, off := 0 }) (item_length found)
  refine ⟨buff, ?_, fun index => ?_⟩
  · change (select { ctx with reg := key } key >>= _) = _
    rw [select_eq, found]
    by_cases isNuma : key = numaKey
    · rw [if_pos isNuma] at filled ⊢
      change (Ctx.fill _ bytes >>= _) = _
      rw [filled, if_pos isNuma]
      rfl
    · rw [if_neg isNuma] at filled ⊢
      change (Ctx.fill _ bytes >>= _) = _
      rw [filled, if_neg isNuma]
      rfl
  · have same :
        (if key = numaKey then { ctx with reg := key }
          else { ctx with reg := key, off := 0 }).buff = ctx.buff := by
      by_cases isNuma : key = numaKey
      · rw [if_pos isNuma]
      · rw [if_neg isNuma]
    rw [list, same]
    by_cases inside : index < bytes.length
    · rw [List.getD_append _ _ _ _ inside,
        List.getD_eq_getElem _ _ inside,
        List.getD_eq_getElem _ _ inside]
    · have behind : bytes.length ≤ index := Nat.le_of_not_lt inside
      rw [List.getD_append_right _ _ _ _ behind,
        List.getD_eq_default bytes _ behind,
        List.getD_eq_getElem?_getD, List.getElem?_drop,
        Nat.add_sub_cancel' behind, ← List.getD_eq_getElem?_getD]

/-- An access that returns is a read or the selection of an item. -/
theorem paraStep_cases
    (called : paraStep ctx step = .ok (response, next)) :
    (∃ port, step = .inb port ∧ ctx.off < bufferSize ∧
        next = { ctx with off := ctx.off + 1 }) ∨
      ∃ key bytes, step = .outw 0 key ∧ item key = some bytes := by
  cases step with
  | inb port =>
      obtain ⟨⟨val, after⟩, read, done⟩ := Outcome.bind_eq_ok_iff.mp called
      cases done
      obtain ⟨_, below, read⟩ := Outcome.bind_eq_ok_iff.mp read
      obtain ⟨byte, -, read⟩ := Outcome.bind_eq_ok_iff.mp read
      cases read
      exact Or.inl ⟨port, rfl, Outcome.assert_eq_ok_iff.mp below, rfl⟩
  | outw port key =>
      obtain ⟨after, written, -⟩ := Outcome.bind_eq_ok_iff.mp called
      unfold qemuparaOutw at written
      rcases Outcome.of_ite_eq_ok written with
        ⟨rfl, written⟩ | ⟨-, written⟩
      · rw [select_eq] at written
        cases found : item key with
        | none =>
            rw [found] at written
            cases written
        | some bytes =>
            exact Or.inr ⟨key, bytes, rfl, found⟩
      · cases written
  | inw port => cases called
  | inl port => cases called
  | outb port val => cases called
  | outl port val => cases called

theorem matches_step (holds : Matches ctx count left)
    (called : paraStep ctx step = .ok (response, next)) :
    Matches next (countAfter count step) (leftAfter left step) := by
  rcases paraStep_cases called with
    ⟨port, rfl, -, rfl⟩ | ⟨key, bytes, rfl, found⟩
  · refine ⟨?_, holds.buff⟩
    rw [holds.off]
    rfl
  · obtain ⟨buff, selected, stored⟩ := outw_of_item ctx found
    rw [selected] at called
    cases called
    refine ⟨?_, fun index => ?_⟩
    · change (if key = numaKey then ctx.off else 0) =
        ((if key = numaKey then count else 0 : Nat) : Int)
      rw [holds.off]
      split <;> rfl
    · change _ = ((item key).getD []).getD index (left index)
      rw [stored, holds.buff, found]
      rfl

/-- After a run the context is as its history says. -/
theorem matches_run {history : List ParaStep}
    {responses : List (Option Uint8)} (holds : Matches ctx count left)
    (ran : run paraStep ctx history = .ok (responses, final)) :
    Matches final (history.foldl countAfter count)
      (history.foldl leftAfter left) := by
  induction history generalizing ctx count left responses with
  | nil =>
      cases ran
      exact holds
  | cons step rest inductionHypothesis =>
      obtain ⟨response, next, others, called, ranRest, -⟩ :=
        run_cons_eq_ok_iff.mp ran
      exact inductionHypothesis (matches_step holds called) ranRest

theorem matches_cleared : Matches Ctx.cleared 0 fun _ => 0 := by
  refine ⟨rfl, fun index => ?_⟩
  unfold Ctx.cleared
  rw [Vector.toList_replicate, List.getD_eq_getElem?_getD]
  simp only [List.getElem?_replicate]
  split <;> rfl

/-- Reads that all return stay in the buffer. -/
theorem off_of_run_inb {ports : List Uint16}
    {responses : List (Option Uint8)} {offset : Nat}
    (starts : ctx.off = offset) (some : ports ≠ [])
    (ran : run paraStep ctx (ports.map .inb) = .ok (responses, final)) :
    offset + ports.length ≤ bufferSize := by
  induction ports generalizing ctx offset responses with
  | nil => exact absurd rfl some
  | cons port rest inductionHypothesis =>
      obtain ⟨response, next, others, called, ranRest, -⟩ :=
        run_cons_eq_ok_iff.mp ran
      rcases paraStep_cases called with
        ⟨_, -, below, rfl⟩ | ⟨_, _, impossible, -⟩
      · rw [List.length_cons]
        by_cases last : rest = []
        · rw [last, List.length_nil]
          omega
        · have later :=
            @inductionHypothesis _ _ (offset + 1)
              (by change ctx.off + 1 = _; omega) last ranRest
          omega
      · cases impossible

end Step

/-! ## Selections after a history -/

section Seen

variable {ctx first second : Ctx} {key : Uint16} {bytes : List Uint8}
variable {ports : List Uint16} {responses : List (Option Uint8)}

/-- What is seen is a run. -/
theorem seen_eq_ok_iff :
    seen ctx key ports = .ok responses ↔
      ∃ final, run paraStep ctx (.outw 0 key :: ports.map .inb) =
        .ok (responses, final) := by
  unfold seen
  rw [Outcome.bind_eq_ok_iff]
  constructor
  · rintro ⟨⟨delivered, final⟩, ran, done⟩
    cases done
    exact ⟨final, ran⟩
  · rintro ⟨final, ran⟩
    exact ⟨(responses, final), ran, rfl⟩

/-- With the offset at its start, the guest sees the item and what is left
behind it. -/
theorem seen_of_start (found : item key = some bytes)
    (starts : key = numaKey → ctx.off = 0)
    (fits : ports.length ≤ bufferSize) :
    ∃ buffer : List Uint8,
      seen ctx key ports =
          .ok (none :: (window buffer 0 ports.length).map some) ∧
        ∀ index, buffer.getD index 0 =
          bytes.getD index (ctx.buff.toList.getD index 0) := by
  obtain ⟨buff, selected, stored⟩ := outw_of_item ctx found
  have off : (if key = numaKey then ctx.off else 0) = ((0 : Nat) : Int) := by
    by_cases isNuma : key = numaKey
    · rw [if_pos isNuma, starts isNuma]
      rfl
    · rw [if_neg isNuma]
      rfl
  obtain ⟨final, ran⟩ :=
    @run_inb ⟨key, if key = numaKey then ctx.off else 0, buff⟩ ports 0 off
      (by omega)
  exact ⟨buff.toList,
    seen_eq_ok_iff.mpr ⟨final, run_cons selected ran⟩, stored⟩

/-- A guest that sees the item reads it from its start. -/
theorem start_of_seesItem (found : item key = some bytes)
    {count : Nat} (off : ctx.off = count)
    (sees : SeesItem ctx key bytes) (isNuma : key = numaKey) :
    count = 0 := by
  have whole := sees (List.replicate bufferSize 0) (by simp)
  obtain ⟨final, ran⟩ := seen_eq_ok_iff.mp whole
  obtain ⟨response, next, others, called, ranReads, -⟩ :=
    run_cons_eq_ok_iff.mp ran
  obtain ⟨buff, selected, -⟩ := outw_of_item ctx found
  rw [selected] at called
  cases called
  have kept : (if key = numaKey then ctx.off else 0) = (count : Int) := by
    rw [if_pos isNuma, off]
  have some : List.replicate bufferSize (0 : Uint16) ≠ [] :=
    List.ne_nil_of_length_pos (by
      rw [List.length_replicate]
      decide)
  have bound := off_of_run_inb kept some ranReads
  rw [List.length_replicate] at bound
  omega

/-- And finds zeros behind it. -/
theorem zero_of_seesItem (found : item key = some bytes)
    (starts : key = numaKey → ctx.off = 0)
    (sees : SeesItem ctx key bytes) {index : Nat}
    (behind : bytes.length ≤ index) :
    ctx.buff.toList.getD index 0 = 0 := by
  by_cases inside : index < bufferSize
  · have whole := sees (List.replicate bufferSize 0) (by simp)
    obtain ⟨buffer, shown, stored⟩ :=
      @seen_of_start ctx key bytes (List.replicate bufferSize 0)
        found starts (by simp)
    rw [shown] at whole
    unfold expected at whole
    simp only [Except.ok.injEq, List.cons.injEq, true_and,
      List.length_replicate] at whole
    have windows :=
      List.map_injective_iff.mpr (Option.some_injective _) whole
    have byte := congrArg (fun list => list.getD index 0) windows
    simp only [window_getD _ inside, Nat.zero_add] at byte
    rw [stored, List.getD_eq_default bytes _ behind,
      List.getD_eq_default bytes _ behind] at byte
    exact byte
  · rw [List.getD_eq_default]
    rw [Vector.length_toList]
    exact Nat.le_of_not_lt inside

theorem seesItem_of_zeros (found : item key = some bytes)
    (starts : key = numaKey → ctx.off = 0)
    (zeros : ∀ index, bytes.length ≤ index →
      ctx.buff.toList.getD index 0 = 0) :
    SeesItem ctx key bytes := by
  intro ports fits
  obtain ⟨buffer, shown, stored⟩ := seen_of_start found starts fits
  have windows :
      window buffer 0 ports.length = window bytes 0 ports.length := by
    unfold window
    refine List.map_congr_left fun index _ => ?_
    rw [Nat.zero_add, stored]
    by_cases inside : index < bytes.length
    · rw [List.getD_eq_getElem _ _ inside,
        List.getD_eq_getElem _ _ inside]
    · have behind : bytes.length ≤ index := Nat.le_of_not_lt inside
      rw [List.getD_eq_default bytes _ behind,
        List.getD_eq_default bytes _ behind, zeros index behind]
  rw [shown, windows]
  rfl

/-- The guest sees the item after every history that left no position and no
bytes, and after no other. -/
theorem seesItem_iff_clean {history : List ParaStep}
    {answers : List (Option Uint8)} (found : item key = some bytes)
    (ran : run paraStep Ctx.cleared history = .ok (answers, ctx)) :
    SeesItem ctx key bytes ↔ Clean history key bytes := by
  have holds : Matches ctx (bytesRead history) (leftover history) :=
    matches_run matches_cleared ran
  have startsOf (unread : key = numaKey → bytesRead history = 0) :
      key = numaKey → ctx.off = 0 := by
    intro isNuma
    rw [holds.off, unread isNuma]
    rfl
  constructor
  · intro sees
    have unread := start_of_seesItem found holds.off sees
    refine ⟨unread, fun index behind => ?_⟩
    rw [← holds.buff]
    exact zero_of_seesItem found (startsOf unread) sees behind
  · rintro ⟨unread, zeros⟩
    refine seesItem_of_zeros found (startsOf unread)
      fun index behind => ?_
    rw [holds.buff]
    exact zeros index behind

/-- After any two histories, a guest that selects a key sees the same bytes,
those of the item and then zeros, exactly when neither history left a position
or a byte for it to see. -/
theorem selections_agree_iff_clean {before earlier : List ParaStep}
    {answers others : List (Option Uint8)}
    (ranFirst : run paraStep Ctx.cleared before = .ok (answers, first))
    (ranSecond : run paraStep Ctx.cleared earlier = .ok (others, second))
    (found : item key = some bytes) :
    (∀ ports : List Uint16, ports.length ≤ bufferSize →
        seen first key ports = seen second key ports ∧
          seen first key ports = expected bytes ports.length) ↔
      Clean before key bytes ∧ Clean earlier key bytes := by
  rw [← seesItem_iff_clean found ranFirst,
    ← seesItem_iff_clean found ranSecond]
  constructor
  · intro agree
    refine ⟨fun ports fits => (agree ports fits).2, fun ports fits => ?_⟩
    rw [← (agree ports fits).1]
    exact (agree ports fits).2
  · rintro ⟨firstSees, secondSees⟩ ports fits
    exact ⟨(firstSees ports fits).trans (secondSees ports fits).symm,
      firstSees ports fits⟩

/-- One selection from the start. -/
theorem exists_run_outw (found : item key = some bytes) :
    ∃ next, run paraStep Ctx.cleared [.outw 0 key] =
      .ok ([none], next) := by
  obtain ⟨buff, selected, -⟩ := outw_of_item Ctx.cleared found
  exact ⟨_, run_one selected⟩

/-- The boot menu, after nothing and after the name. -/
theorem selections_agree_iff_clean_menu :
    ∃ second,
      run paraStep Ctx.cleared [.outw 0 0x00] = .ok ([none], second) ∧
        ((∀ ports : List Uint16, ports.length ≤ bufferSize →
            seen Ctx.cleared 0xE ports = seen second 0xE ports ∧
              seen Ctx.cleared 0xE ports =
                expected [0, 1] ports.length) ↔
          Clean [] 0xE [0, 1] ∧ Clean [.outw 0 0x00] 0xE [0, 1]) := by
  have name : item 0x00 = some [0x51, 0x45, 0x4D, 0x55] := rfl
  have menu : item 0xE = some [0, 1] := rfl
  obtain ⟨second, ran⟩ := exists_run_outw name
  exact ⟨second, ran, selections_agree_iff_clean rfl ran menu⟩

/-- After the E820 table, the bytes behind the two of the boot menu are those
of the table; read at the start, they are zeros. -/
theorem selections_do_not_agree :
    ¬ ∀ (before earlier : List ParaStep)
        (answers others : List (Option Uint8)) (first second : Ctx)
        (key : Uint16) (bytes : List Uint8),
      run paraStep Ctx.cleared before = .ok (answers, first) →
        run paraStep Ctx.cleared earlier = .ok (others, second) →
          item key = some bytes →
            ∀ ports : List Uint16, ports.length ≤ bufferSize →
              seen first key ports = seen second key ports ∧
                seen first key ports = expected bytes ports.length := by
  intro agree
  have table : item 0x8003 = some e820Table.bytes := rfl
  have menu : item 0xE = some [0, 1] := rfl
  obtain ⟨first, ran⟩ := exists_run_outw table
  have sees : SeesItem first 0xE [0, 1] := fun ports fits =>
    (agree _ [] _ _ first _ 0xE [0, 1] ran rfl menu ports fits).2
  have clean := (seesItem_iff_clean menu ran).mp sees
  exact absurd (clean.2 14 (by decide)) (by decide)

end Seen

end Kvmulate.Qemu
