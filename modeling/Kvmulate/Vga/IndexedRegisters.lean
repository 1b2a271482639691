import Kvmulate.Vga.Registers

/-!
# The indexed registers

Three groups of VGA registers have an index port and a data port behind it.
What is written to a register stays there whatever happens to the other two
groups.
-/

namespace Kvmulate.Vga

open DeviceLib

inductive Group where
  | sequencer
  | graphicsController
  | crtc
deriving DecidableEq, Repr

namespace Group

def index : Group → Uint16
  | sequencer => 0x3C4
  | graphicsController => 0x3CE
  | crtc => 0x3D4

def data : Group → Uint16
  | sequencer => 0x3C5
  | graphicsController => 0x3CF
  | crtc => 0x3D5

/-- The registers that the write path stores. -/
def Stores : Group → Uint8 → Prop
  | sequencer, register => 1 ≤ register.toNat ∧ register.toNat ≤ 4
  | graphicsController, register => register.toNat ≤ 8
  | crtc, register => register.toNat ≤ 0x18

/-- What is stored of a byte: the map mask has four bits. -/
def kept (group : Group) (register val : Uint8) : Uint8 :=
  if group = sequencer ∧ register = 2 then val &&& 0xF else val

/-- At most the group has changed. -/
def Only : Group → VgaCtx → VgaCtx → Prop
  | sequencer, ctx, next =>
      next = { ctx with seqNdx := next.seqNdx, seqReg := next.seqReg }
  | graphicsController, ctx, next =>
      next = { ctx with
        gcontNdx := next.gcontNdx
        gcontReg := next.gcontReg }
  | crtc, ctx, next =>
      next = { ctx with crtcNdx := next.crtcNdx, crtcReg := next.crtcReg }

/-- The group has not changed. -/
def Same : Group → VgaCtx → VgaCtx → Prop
  | sequencer, ctx, next =>
      next.seqNdx = ctx.seqNdx ∧ next.seqReg = ctx.seqReg
  | graphicsController, ctx, next =>
      next.gcontNdx = ctx.gcontNdx ∧ next.gcontReg = ctx.gcontReg
  | crtc, ctx, next =>
      next.crtcNdx = ctx.crtcNdx ∧ next.crtcReg = ctx.crtcReg

/-- The register is selected and has the value. -/
def Holds : Group → Uint8 → Uint8 → VgaCtx → Prop
  | sequencer, register, val, ctx =>
      ctx.seqNdx = register.toNat ∧
        ctx.seqReg.toList[register.toNat]? = some val
  | graphicsController, register, val, ctx =>
      ctx.gcontNdx = register.toNat ∧
        ctx.gcontReg.toList[register.toNat]? = some val
  | crtc, register, val, ctx =>
      ctx.crtcNdx = register ∧
        ctx.crtcReg.toList[register.toNat]? = some val

section Parts

variable {group other : Group} {ctx middle next : VgaCtx}
variable {register val : Uint8}

theorem Only.trans (first : group.Only ctx middle)
    (second : group.Only middle next) : group.Only ctx next := by
  cases group with
  | sequencer =>
      change next = _ at second
      rw [second, show middle = _ from first]
      rfl
  | graphicsController =>
      change next = _ at second
      rw [second, show middle = _ from first]
      rfl
  | crtc =>
      change next = _ at second
      rw [second, show middle = _ from first]
      rfl

/-- Another group has not changed. -/
theorem Only.same (only : group.Only ctx next) (different : other ≠ group) :
    other.Same ctx next := by
  cases group with
  | sequencer =>
      rw [show next = _ from only]
      cases other with
      | sequencer => exact absurd rfl different
      | graphicsController => exact ⟨rfl, rfl⟩
      | crtc => exact ⟨rfl, rfl⟩
  | graphicsController =>
      rw [show next = _ from only]
      cases other with
      | sequencer => exact ⟨rfl, rfl⟩
      | graphicsController => exact absurd rfl different
      | crtc => exact ⟨rfl, rfl⟩
  | crtc =>
      rw [show next = _ from only]
      cases other with
      | sequencer => exact ⟨rfl, rfl⟩
      | graphicsController => exact ⟨rfl, rfl⟩
      | crtc => exact absurd rfl different

theorem Holds.of_same (holds : group.Holds register val ctx)
    (same : group.Same ctx next) : group.Holds register val next := by
  cases group with
  | sequencer =>
      exact ⟨same.1.trans holds.1, same.2 ▸ holds.2⟩
  | graphicsController =>
      exact ⟨same.1.trans holds.1, same.2 ▸ holds.2⟩
  | crtc =>
      exact ⟨same.1.trans holds.1, same.2 ▸ holds.2⟩

end Parts

/-! ## One access -/

section Accesses

variable {group other : Group} {ctx next : VgaCtx} {port : Uint16}

/-- The port is none of the group's. -/
def Elsewhere (group : Group) (port : Uint16) : Prop :=
  port ≠ group.index ∧ port ≠ group.data

theorem only_index (group : Group) (ctx : VgaCtx) (val : Uint8) :
    Outcome.Ensures (group.Only ctx) (vgaregOutb ctx group.index val) := by
  cases group with
  | sequencer => exact Outcome.ensures_ok rfl
  | graphicsController => exact Outcome.ensures_ok rfl
  | crtc => exact Outcome.ensures_bind fun _ _ => Outcome.ensures_ok rfl

theorem only_data (group : Group) (ctx : VgaCtx) (val : Uint8) :
    Outcome.Ensures (group.Only ctx) (vgaregOutb ctx group.data val) := by
  cases group with
  | sequencer =>
      change Outcome.Ensures _ (sequencerWrite ctx val)
      simp only [sequencerWrite]
      refine Outcome.ensures_ite (Outcome.ensures_ok rfl) ?_
      refine Outcome.ensures_ite (Outcome.ensures_ok rfl) ?_
      refine Outcome.ensures_ite (Outcome.ensures_ok rfl) ?_
      refine Outcome.ensures_ite (Outcome.ensures_ok rfl) ?_
      refine Outcome.ensures_ite (Outcome.ensures_ok rfl) ?_
      exact Outcome.ensures_ite (Outcome.ensures_ok rfl)
        Outcome.ensures_error
  | graphicsController =>
      change Outcome.Ensures _ (graphicsControllerWrite ctx val)
      simp only [graphicsControllerWrite]
      refine Outcome.ensures_ite ?_ (Outcome.ensures_ok rfl)
      exact Outcome.ensures_bind fun _ _ => Outcome.ensures_ok rfl
  | crtc => exact Outcome.ensures_bind fun _ _ => Outcome.ensures_ok rfl

/-- The contents of all groups. -/
def contents (ctx : VgaCtx) :
    Int × Vector Uint8 5 × Int × Vector Uint8 9 × Uint8 ×
      Vector Uint8 0x19 :=
  (ctx.seqNdx, ctx.seqReg, ctx.gcontNdx, ctx.gcontReg, ctx.crtcNdx,
    ctx.crtcReg)

theorem same_of_contents (group : Group)
    (same : contents next = contents ctx) : group.Same ctx next := by
  simp only [contents, Prod.mk.injEq] at same
  rcases same with ⟨seqNdx, seqReg, gcontNdx, gcontReg, crtcNdx, crtcReg⟩
  cases group with
  | sequencer => exact ⟨seqNdx, seqReg⟩
  | graphicsController => exact ⟨gcontNdx, gcontReg⟩
  | crtc => exact ⟨crtcNdx, crtcReg⟩

/-- If the call returns, no group has changed. -/
def KeepsContents (ctx : VgaCtx) (outcome : Outcome VgaCtx) : Prop :=
  Outcome.Ensures (fun next => contents next = contents ctx) outcome

/-- The ports of no group leave all of them alone. -/
theorem keepsContents_outb (ctx : VgaCtx) (val : Uint8)
    (elsewhere : ∀ group : Group, group.Elsewhere port) :
    KeepsContents ctx (vgaregOutb ctx port val) := by
  have sequencer : port ≠ 0x3C4 ∧ port ≠ 0x3C5 := elsewhere .sequencer
  have graphics : port ≠ 0x3CE ∧ port ≠ 0x3CF :=
    elsewhere .graphicsController
  have crtc : port ≠ 0x3D4 ∧ port ≠ 0x3D5 := elsewhere .crtc
  simp only [vgaregOutb]
  rw [if_neg sequencer.1, if_neg sequencer.2, if_neg graphics.1,
    if_neg graphics.2, if_neg crtc.1, if_neg crtc.2]
  refine Outcome.ensures_ite (Outcome.ensures_ok rfl) ?_
  refine Outcome.ensures_ite ?_ ?_
  · exact Outcome.ensures_bind fun _ _ => Outcome.ensures_ok rfl
  refine Outcome.ensures_ite ?_ ?_
  · exact Outcome.ensures_bind fun _ _ => Outcome.ensures_ok rfl
  refine Outcome.ensures_ite (Outcome.ensures_ok rfl) ?_
  refine Outcome.ensures_ite (Outcome.ensures_ok rfl) ?_
  refine Outcome.ensures_ite ?_ ?_
  · exact Outcome.ensures_bind fun _ _ => Outcome.ensures_ok rfl
  exact Outcome.ensures_ite (Outcome.ensures_ok rfl) Outcome.ensures_error

theorem same_of_only (only : other.Only ctx next)
    (elsewhere : group.Elsewhere port)
    (shared : port = other.index ∨ port = other.data) :
    group.Same ctx next := by
  refine only.same ?_
  intro equal
  subst equal
  rcases shared with atIndex | atData
  · exact elsewhere.1 atIndex
  · exact elsewhere.2 atData

theorem same_outb (val : Uint8) (elsewhere : group.Elsewhere port) :
    Outcome.Ensures (group.Same ctx) (vgaregOutb ctx port val) := by
  intro next written
  by_cases shared :
      ∃ other : Group, port = other.index ∨ port = other.data
  · rcases shared with ⟨other, atIndex | atData⟩
    · subst atIndex
      exact same_of_only (only_index other ctx val next written) elsewhere
        (Or.inl rfl)
    · subst atData
      exact same_of_only (only_data other ctx val next written) elsewhere
        (Or.inr rfl)
  · have nowhere : ∀ other : Group, other.Elsewhere port := by
      intro other
      exact ⟨fun atIndex => shared ⟨other, Or.inl atIndex⟩,
        fun atData => shared ⟨other, Or.inr atData⟩⟩
    exact same_of_contents group
      (keepsContents_outb ctx val nowhere next written)

/-- A word write goes to the index and the data of one group. -/
theorem outw_eq (group : Group) (ctx : VgaCtx) (val : Uint16) :
    vgaregOutw ctx group.index val = (do
      let selected ← vgaregOutb ctx group.index
        ((val &&& 0xFF).setWidth 8)
      vgaregOutb selected group.data ((val >>> 8).setWidth 8)) := by
  cases group with
  | sequencer => rfl
  | graphicsController => rfl
  | crtc => rfl

theorem only_outw (group : Group) (ctx : VgaCtx) (val : Uint16) :
    Outcome.Ensures (group.Only ctx)
      (vgaregOutw ctx group.index val) := by
  rw [outw_eq]
  refine Outcome.ensures_bind fun selected first => ?_
  intro next second
  exact (only_index group ctx _ selected first).trans
    (only_data group selected _ next second)

theorem same_outw (val : Uint16) (elsewhere : group.Elsewhere port) :
    Outcome.Ensures (group.Same ctx) (vgaregOutw ctx port val) := by
  intro next written
  have indexed : ∃ other : Group, port = other.index := by
    rcases Outcome.of_ite_eq_ok written with ⟨ports, -⟩ | ⟨-, stopped⟩
    · rcases ports with atSequencer | atCrtc | atGraphics
      · exact ⟨sequencer, atSequencer⟩
      · exact ⟨crtc, atCrtc⟩
      · exact ⟨graphicsController, atGraphics⟩
    · cases stopped
  rcases indexed with ⟨other, atIndex⟩
  subst atIndex
  exact same_of_only (only_outw other ctx val next written) elsewhere
    (Or.inl rfl)

end Accesses

/-! ## Accesses to other groups -/

/-- The port of an access. -/
def portOf : VgaAccess → Uint16
  | .inb port => port
  | .outb port _ => port
  | .inw port => port
  | .outw port _ => port

theorem same_vgaAccess {group : Group} {ctx next : VgaCtx}
    {access : VgaAccess} {response : VgaResponse}
    (elsewhere : group.Elsewhere (portOf access))
    (called : vgaAccess ctx access = .ok (response, next)) :
    group.Same ctx next := by
  cases access with
  | inb port =>
      rcases Outcome.bind_eq_ok_iff.mp called with
        ⟨⟨val, after⟩, read, built⟩
      cases built
      have only := ensures_vgaregInb ctx port _ read
      change next = _ at only
      rw [only]
      exact same_of_contents group rfl
  | outb port val =>
      rcases Outcome.bind_eq_ok_iff.mp called with ⟨after, written, built⟩
      cases built
      exact same_outb val elsewhere next written
  | inw port =>
      cases called
  | outw port val =>
      rcases Outcome.bind_eq_ok_iff.mp called with ⟨after, written, built⟩
      cases built
      exact same_outw val elsewhere next written

/-! ## Programming a register -/

/-- The two ways to program a register. -/
inductive Route where
  | bytes
  | word
deriving DecidableEq, Repr

/-- Write the index and then the byte. -/
def program (group : Group) (route : Route) (register val : Uint8) :
    List VgaAccess :=
  match route with
  | .bytes => [.outb group.index register, .outb group.data val]
  | .word => [.outw group.index (val ++ register)]

section Program

variable {group : Group} {ctx next : VgaCtx} {register val : Uint8}

theorem toNat_wordOf (val register : Uint8) :
    (val ++ register : Uint16).toNat =
      val.toNat * 256 + register.toNat := by
  rw [BitVec.toNat_append,
    ← Nat.shiftLeft_add_eq_or_of_lt register.isLt, Nat.shiftLeft_eq]

theorem low_of_word (val register : Uint8) :
    ((val ++ register : Uint16) &&& 0xFF).setWidth 8 = register := by
  have ones : BitVec.setWidth 8 (0xFF : Uint16) = BitVec.allOnes 8 := by
    decide
  have low : (val ++ register : Uint16).setWidth 8 = register := by
    apply BitVec.eq_of_toNat_eq
    have small := register.isLt
    rw [BitVec.toNat_setWidth, toNat_wordOf]
    omega
  rw [BitVec.setWidth_and, ones, BitVec.and_allOnes, low]

theorem high_of_word (val register : Uint8) :
    ((val ++ register : Uint16) >>> 8).setWidth 8 = val := by
  apply BitVec.eq_of_toNat_eq
  have low := register.isLt
  have high := val.isLt
  rw [BitVec.toNat_setWidth, BitVec.toNat_ushiftRight, toNat_wordOf,
    Nat.shiftRight_eq_div_pow]
  omega

/-- The register is selected. -/
def Selected : Group → Uint8 → VgaCtx → Prop
  | sequencer, register, ctx => ctx.seqNdx = register.toNat
  | graphicsController, register, ctx => ctx.gcontNdx = register.toNat
  | crtc, register, ctx => ctx.crtcNdx = register

theorem exists_selected (group : Group) (ctx : VgaCtx)
    (stores : group.Stores register) :
    ∃ next, vgaregOutb ctx group.index register = .ok next ∧
      group.Selected register next := by
  cases group with
  | sequencer => exact ⟨_, rfl, if_pos stores.2⟩
  | graphicsController => exact ⟨_, rfl, if_pos stores⟩
  | crtc =>
      change register.toNat ≤ 0x18 at stores
      refine ⟨{ ctx with crtcNdx := register }, ?_, rfl⟩
      change
        (Outcome.assert (register.toNat ≤ 0x18) >>= fun _ => Except.ok _) =
          _
      rw [Outcome.assert_of stores]
      rfl

theorem getElem?_set {size index : Nat} (array : Vector Uint8 size)
    (inside : index < size) (val : Uint8) :
    (array.set index val inside).toList[index]? = some val := by
  have length : array.toList.length = size := Vector.length_toList
  rw [Vector.toList_set, List.getElem?_set_self]
  rw [length]
  exact inside

theorem exists_stored (stores : group.Stores register)
    (selected : group.Selected register ctx) (val : Uint8) :
    ∃ next, vgaregOutb ctx group.data val = .ok next ∧
      group.Holds register (group.kept register val) next := by
  cases group with
  | sequencer =>
      change ctx.seqNdx = register.toNat at selected
      have cases : register = 1 ∨ register = 2 ∨ register = 3 ∨
          register = 4 := by
        have low := stores.1
        have high := stores.2
        bv_omega
      change ∃ next, sequencerWrite ctx val = .ok next ∧ _
      simp only [sequencerWrite]
      rw [selected]
      rcases cases with rfl | rfl | rfl | rfl
      · exact ⟨_, rfl, rfl, getElem?_set ctx.seqReg (by decide) _⟩
      · exact ⟨_, rfl, rfl, getElem?_set ctx.seqReg (by decide) _⟩
      · exact ⟨_, rfl, rfl, getElem?_set ctx.seqReg (by decide) _⟩
      · exact ⟨_, rfl, rfl, getElem?_set ctx.seqReg (by decide) _⟩
  | graphicsController =>
      change ctx.gcontNdx = register.toNat at selected
      change register.toNat ≤ 8 at stores
      have some : ctx.gcontNdx ≠ -1 := by
        omega
      have inside : Indexes 9 ctx.gcontNdx := ⟨by omega, by omega⟩
      change ∃ next, graphicsControllerWrite ctx val = .ok next ∧ _
      rw [graphicsControllerWrite, if_pos some, store_of_indexes inside,
        selected]
      exact ⟨_, rfl, rfl, getElem?_stored _ (Nat.lt_succ_of_le stores) _⟩
  | crtc =>
      change ctx.crtcNdx = register at selected
      change register.toNat ≤ 0x18 at stores
      have inside : Indexes 0x19 (ctx.crtcNdx.toNat : Int) := by
        rw [selected]
        exact ⟨by omega, by omega⟩
      change ∃ next, crtcWrite ctx val = .ok next ∧ _
      rw [crtcWrite, store_of_indexes inside, selected]
      exact ⟨_, rfl, rfl, getElem?_stored _ (Nat.lt_succ_of_le stores) _⟩

/-- Both routes select the register and store the byte. -/
theorem exists_programmed (route : Route) (ctx : VgaCtx) (val : Uint8)
    (stores : group.Stores register) :
    ∃ responses next,
      run vgaAccess ctx (group.program route register val) =
          .ok (responses, next) ∧
        group.Only ctx next ∧
          group.Holds register (group.kept register val) next := by
  obtain ⟨middle, first, selected⟩ := exists_selected group ctx stores
  obtain ⟨next, second, holds⟩ := exists_stored stores selected val
  have only : group.Only ctx next :=
    (only_index group ctx register middle first).trans
      (only_data group middle val next second)
  cases route with
  | bytes =>
      have calledFirst :
          vgaAccess ctx (.outb group.index register) =
            .ok (none, middle) := by
        rw [vgaAccess, first]
        rfl
      have calledSecond :
          vgaAccess middle (.outb group.data val) = .ok (none, next) := by
        rw [vgaAccess, second]
        rfl
      refine ⟨[none, none], next, ?_, only, holds⟩
      exact run_cons calledFirst (run_one calledSecond)
  | word =>
      have called :
          vgaAccess ctx (.outw group.index (val ++ register)) =
            .ok (none, next) := by
        rw [vgaAccess, outw_eq, low_of_word, high_of_word, first,
          Outcome.ok_bind, second]
        rfl
      refine ⟨[none], next, ?_, only, holds⟩
      exact run_one called

/-! ## Reading it back -/

/-- The registers that the read path delivers. -/
def Readable (group : Group) (register : Uint8) : Prop :=
  group = sequencer → register = 2 ∨ register = 4

theorem read_of_holds (holds : group.Holds register val ctx)
    (readable : group.Readable register) :
    vgaAccess ctx (.inb group.data) = .ok (some (val.setWidth 16), ctx) := by
  cases group with
  | sequencer =>
      have loaded :
          load ctx.seqReg (register.toNat : Int) = .ok val :=
        load_eq_ok_iff.mpr holds.2
      have read : sequencerRead ctx = .ok val := by
        rw [sequencerRead, holds.1, loaded]
        rcases readable rfl with rfl | rfl
        · rfl
        · rfl
      change
        (unchanged ctx (sequencerRead ctx) >>= fun result => _) = _
      rw [read]
      rfl
  | graphicsController =>
      have some : ctx.gcontNdx ≠ -1 := by
        rw [holds.1]
        omega
      have loaded :
          load ctx.gcontReg (register.toNat : Int) = .ok val :=
        load_eq_ok_iff.mpr holds.2
      have read : graphicsControllerRead ctx = .ok val := by
        rw [graphicsControllerRead, if_pos some, holds.1, loaded]
      change
        (unchanged ctx (graphicsControllerRead ctx) >>= fun result => _) =
          _
      rw [read]
      rfl
  | crtc =>
      have natural : (ctx.crtcNdx.toNat : Int) ≠ -1 := by
        omega
      have loaded :
          load ctx.crtcReg (register.toNat : Int) = .ok val :=
        load_eq_ok_iff.mpr holds.2
      have read : crtcRead ctx = .ok val := by
        rw [crtcRead, if_neg natural, holds.1, loaded]
      change (unchanged ctx (crtcRead ctx) >>= fun result => _) = _
      rw [read]
      rfl

/-- `sequencer_read` knows two of the four registers that are stored. -/
theorem readable_of_read {response : VgaResponse}
    (holds : group.Holds register val ctx)
    (stores : group.Stores register)
    (read : vgaAccess ctx (.inb group.data) = .ok (response, next)) :
    group.Readable register := by
  intro isSequencer
  subst isSequencer
  by_contra unread
  rw [not_or] at unread
  have selected : ctx.seqNdx = register.toNat := holds.1
  have low : 1 ≤ register.toNat := stores.1
  have notMapMask : ¬ ctx.seqNdx = 0x02 := by
    rw [selected]
    intro equal
    exact unread.1 (BitVec.eq_of_toNat_eq (Int.ofNat_inj.mp equal))
  have notMemoryMode : ¬ ctx.seqNdx = 0x04 := by
    rw [selected]
    intro equal
    exact unread.2 (BitVec.eq_of_toNat_eq (Int.ofNat_inj.mp equal))
  have natural : ¬ ctx.seqNdx = -1 := by
    omega
  have stopped : sequencerRead ctx = .error .abort := by
    rw [sequencerRead, if_neg notMapMask, if_neg notMemoryMode,
      if_neg natural]
  change (unchanged ctx (sequencerRead ctx) >>= fun result => _) = _ at read
  rw [stopped] at read
  cases read

end Program

/-- The byte is stored by either route, no other register changes with it, and
after any accesses to other groups it is read back. -/
def ReadsBack (group : Group) (ctx : VgaCtx) (route : Route)
    (register val : Uint8) : Prop :=
  ∃ responses next,
    run vgaAccess ctx (group.program route register val) =
        .ok (responses, next) ∧
      group.Only ctx next ∧
        ∀ (between : List VgaAccess) (others : List VgaResponse)
          (middle : VgaCtx),
          (∀ access ∈ between, group.Elsewhere (portOf access)) →
            run vgaAccess next between = .ok (others, middle) →
              vgaAccess middle (.inb group.data) =
                .ok (some ((group.kept register val).setWidth 16), middle)

/-- Accesses to other groups leave the register as it is. -/
theorem holds_of_between {group : Group} {register val : Uint8}
    {between : List VgaAccess} {others : List VgaResponse}
    {ctx middle : VgaCtx} (holds : group.Holds register val ctx)
    (elsewhere : ∀ access ∈ between, group.Elsewhere (portOf access))
    (ran : run vgaAccess ctx between = .ok (others, middle)) :
    group.Holds register val middle := by
  induction between generalizing ctx others with
  | nil =>
      cases ran
      exact holds
  | cons access rest inductionHypothesis =>
      obtain ⟨response, next, later, called, ranRest, -⟩ :=
        run_cons_eq_ok_iff.mp ran
      have same := same_vgaAccess (elsewhere access List.mem_cons_self) called
      refine inductionHypothesis (holds.of_same same) ?_ ranRest
      intro other present
      exact elsewhere other (List.mem_cons_of_mem access present)

end Group

/-- For every state, route and byte, and every register that the write path of
a group stores, the register reads back exactly if the read path knows it. -/
theorem readsBack_iff (group : Group) (ctx : VgaCtx) (route : Group.Route)
    (register val : Uint8) (stores : group.Stores register) :
    group.ReadsBack ctx route register val ↔
      group ≠ .sequencer ∨ register = 2 ∨ register = 4 := by
  obtain ⟨responses, next, ran, only, holds⟩ :=
    Group.exists_programmed route ctx val stores
  constructor
  · intro readsBack
    obtain ⟨responses', next', ran', -, read⟩ := readsBack
    rw [ran] at ran'
    cases ran'
    have readable : group.Readable register :=
      Group.readable_of_read holds stores
        (read [] [] next
          (fun _ absent => absurd absent List.not_mem_nil) rfl)
    by_cases isSequencer : group = .sequencer
    · exact Or.inr (readable isSequencer)
    · exact Or.inl isSequencer
  · intro known
    refine ⟨responses, next, ran, only, ?_⟩
    intro between others middle elsewhere ranBetween
    apply Group.read_of_holds (Group.holds_of_between holds elsewhere ranBetween)
    intro isSequencer
    exact known.resolve_left fun different => different isSequencer

theorem readsBack_iff_mapMask :
    Group.ReadsBack .sequencer (VgaCtx.zeroed fun _ _ => 0) .word 2 0xFF ↔
      Group.sequencer ≠ .sequencer ∨ (2 : Uint8) = 2 ∨ (2 : Uint8) = 4 :=
  readsBack_iff .sequencer (VgaCtx.zeroed fun _ _ => 0) .word 2 0xFF
    ⟨by decide, by decide⟩

/-- The clocking mode register is stored, but its read stops the machine. -/
theorem clockingMode_not_readBack :
    ¬ ∀ (group : Group) (ctx : VgaCtx) (route : Group.Route)
      (register val : Uint8), group.Stores register →
        group.ReadsBack ctx route register val := by
  intro always
  obtain ⟨responses, next, ran, -, read⟩ :=
    always .sequencer (VgaCtx.zeroed fun _ _ => 0) .bytes 1 1
      ⟨by decide, by decide⟩
  cases ran
  have stopped :=
    read [] [] _ (fun _ absent => absurd absent List.not_mem_nil) rfl
  cases stopped

end Kvmulate.Vga
