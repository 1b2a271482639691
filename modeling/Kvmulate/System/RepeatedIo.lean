import Kvmulate.System.StringIo

/-!
# String I/O as repeated accesses

A string instruction does what its elements do one after the other, as long as
the data area does not cover the structure that describes it.
-/

namespace Kvmulate.System

open DeviceLib Kvmulate.Io

variable {σ : Type}

/-! ## Single accesses -/

def outAccess (size : Uint8) (port : Uint16) (data : List Uint8) :
    IoAccess :=
  if size = 1 then .outb port (leValue 8 data)
  else if size = 2 then .outw port (leValue 16 data)
  else .outl port (leValue 32 data)

def inAccess (size : Uint8) (port : Uint16) : IoAccess :=
  if size = 1 then .inb port
  else if size = 2 then .inw port
  else .inl port

/-- The bytes of what an access delivers, low byte first. -/
def dataBytes : IoData → List Uint8
  | .none => []
  | .byte val => leBytes 1 val
  | .word val => leBytes 2 val
  | .long val => leBytes 4 val

/-- The sizes of an element. -/
def NaturalSize (size : Uint8) : Prop :=
  size = 1 ∨ size = 2 ∨ size = 4

section Element

variable {table : IoTable σ} {pStat : KvmRun} {state : σ}

theorem load_of_inside {count : Nat}
    (inside : pStat.dataOffset.toNat + count ≤ pStat.statSz) :
    pStat.load count = .ok (pStat.bytes pStat.dataOffset.toNat count) := by
  unfold KvmRun.load
  rw [Outcome.guard_of inside]
  rfl

theorem store_of_inside {stored : List Uint8}
    (inside : pStat.dataOffset.toNat + stored.length ≤ pStat.statSz) :
    pStat.store stored =
      .ok (pStat.patch pStat.dataOffset.toNat stored) := by
  unfold KvmRun.store
  rw [Outcome.guard_of inside]
  rfl

/-- Writing the element at the cursor is the single access. -/
theorem outElement_eq (natural : NaturalSize pStat.size)
    (inside : pStat.dataOffset.toNat + pStat.size.toNat ≤ pStat.statSz) :
    (do
        let next ← outElement table pStat state
        pure (IoData.none, next)) =
      ioAccess table state
        (outAccess pStat.size pStat.port
          (pStat.bytes pStat.dataOffset.toNat pStat.size.toNat)) := by
  unfold outElement outAccess
  rcases natural with byte | word | long
  · rw [byte] at inside ⊢
    have loaded := @load_of_inside pStat 1 inside
    rw [if_pos rfl, if_pos rfl, loaded]
    rfl
  · rw [word] at inside ⊢
    have loaded := @load_of_inside pStat 2 inside
    rw [if_neg (by decide), if_pos rfl, if_neg (by decide), if_pos rfl,
      loaded]
    rfl
  · rw [long] at inside ⊢
    have loaded := @load_of_inside pStat 4 inside
    rw [if_neg (by decide), if_neg (by decide), if_pos rfl,
      if_neg (by decide), if_neg (by decide), loaded]
    rfl

/-- Reading into the element at the cursor is the single access and the store
of what it delivers. -/
theorem inElement_eq (natural : NaturalSize pStat.size)
    (inside : pStat.dataOffset.toNat + pStat.size.toNat ≤ pStat.statSz) :
    inElement table pStat state =
      (do
        let (val, next) ←
          ioAccess table state (inAccess pStat.size pStat.port)
        pure
          (pStat.patch pStat.dataOffset.toNat (dataBytes val), next)) := by
  unfold inElement inAccess
  rcases natural with byte | word | long
  · rw [byte] at inside ⊢
    rw [if_pos rfl, if_pos rfl]
    cases called : ioInb table pStat.port state with
    | error stop =>
        simp only [ioAccess, called, Outcome.error_bind]
    | ok delivered =>
        have stored :=
          @store_of_inside pStat (leBytes 1 delivered.1)
            (by rwa [leBytes_length])
        simp only [ioAccess, called, Outcome.ok_bind, Outcome.pure_eq_ok,
          stored, dataBytes]
  · rw [word] at inside ⊢
    rw [if_neg (by decide), if_pos rfl, if_neg (by decide), if_pos rfl]
    cases called : ioInw table pStat.port state with
    | error stop =>
        simp only [ioAccess, called, Outcome.error_bind]
    | ok delivered =>
        have stored :=
          @store_of_inside pStat (leBytes 2 delivered.1)
            (by rwa [leBytes_length])
        simp only [ioAccess, called, Outcome.ok_bind, Outcome.pure_eq_ok,
          stored, dataBytes]
  · rw [long] at inside ⊢
    rw [if_neg (by decide), if_neg (by decide), if_pos rfl,
      if_neg (by decide), if_neg (by decide)]
    cases called : ioInl table pStat.port state with
    | error stop =>
        simp only [ioAccess, called, Outcome.error_bind]
    | ok delivered =>
        have stored :=
          @store_of_inside pStat (leBytes 4 delivered.1)
            (by rwa [leBytes_length])
        simp only [ioAccess, called, Outcome.ok_bind, Outcome.pure_eq_ok,
          stored, dataBytes]

/-- A single read delivers as many bytes as an element has. -/
theorem length_dataBytes {val : IoData} {next : σ} {port : Uint16}
    {size : Uint8} (natural : NaturalSize size)
    (called : ioAccess table state (inAccess size port) =
      .ok (val, next)) :
    (dataBytes val).length = size.toNat := by
  unfold inAccess at called
  rcases natural with rfl | rfl | rfl
  · rw [if_pos rfl] at called
    obtain ⟨delivered, -, done⟩ := Outcome.bind_eq_ok_iff.mp called
    cases done
    exact leBytes_length _ _
  · rw [if_neg (by decide), if_pos rfl] at called
    obtain ⟨delivered, -, done⟩ := Outcome.bind_eq_ok_iff.mp called
    cases done
    exact leBytes_length _ _
  · rw [if_neg (by decide), if_neg (by decide)] at called
    obtain ⟨delivered, -, done⟩ := Outcome.bind_eq_ok_iff.mp called
    cases done
    exact leBytes_length _ _

end Element

/-! ## The loops -/

/-- The elements at the cursor, if there are any, lie in the mapping and do
not cover the header. -/
structure DataArea (pStat : KvmRun) (elements : Nat) : Prop where
  natural : NaturalSize pStat.size
  inside : 0 < elements →
    pStat.dataOffset.toNat + elements * pStat.size.toNat ≤ pStat.statSz
  disjoint : 0 < elements →
    pStat.dataOffset.toNat + elements * pStat.size.toNat ≤ pStat.io ∨
      pStat.io + 16 ≤ pStat.dataOffset.toNat

/-- The structure after as many elements, which stored the bytes. -/
def KvmRun.after (pStat : KvmRun) (elements : Nat)
    (stored : List Uint8) : KvmRun :=
  (pStat.patch pStat.dataOffset.toNat stored).setDataOffset
    (BitVec.ofNat 64
      (pStat.dataOffset.toNat + elements * pStat.size.toNat))

/-- The elements at the cursor as single writes. -/
def KvmRun.outAccesses (pStat : KvmRun) (elements : Nat) : List IoAccess :=
  (List.range elements).map fun index =>
    outAccess pStat.size pStat.port
      (pStat.bytes (pStat.dataOffset.toNat + index * pStat.size.toNat)
        pStat.size.toNat)

/-- As many single reads. -/
def KvmRun.inAccesses (pStat : KvmRun) (elements : Nat) : List IoAccess :=
  List.replicate elements (inAccess pStat.size pStat.port)

section Loop

variable {table : IoTable σ} {pStat : KvmRun} {elements : Nat}
variable {stored rest : List Uint8}

/-- What the loop does to the structure for one element. -/
def KvmRun.step (pStat : KvmRun) (stored : List Uint8) : KvmRun :=
  (pStat.patch pStat.dataOffset.toNat stored).advance

theorem step_nil : pStat.step [] = pStat.advance := by
  unfold KvmRun.step
  rw [KvmRun.patch_nil]

/-- One element leaves the header and moves the cursor by its size. -/
theorem step_spec (area : DataArea pStat (elements + 1))
    (narrow : stored.length ≤ pStat.size.toNat) :
    KvmRun.SameHeader pStat (pStat.step stored) ∧
      (pStat.step stored).dataOffset.toNat =
        pStat.dataOffset.toNat + pStat.size.toNat := by
  have product : (elements + 1) * pStat.size.toNat =
      elements * pStat.size.toNat + pStat.size.toNat :=
    Nat.succ_mul _ _
  have inside := area.inside (Nat.succ_pos _)
  have disjoint := area.disjoint (Nat.succ_pos _)
  obtain ⟨patched, cursor⟩ :=
    @KvmRun.sameHeader_patch pStat pStat.dataOffset.toNat stored (by omega)
  have moved :=
    @KvmRun.toNat_dataOffset_advance
      (pStat.patch pStat.dataOffset.toNat stored)
      (by rw [cursor, patched.size, patched.statSz]; omega)
  rw [cursor, patched.size] at moved
  exact ⟨patched.trans KvmRun.sameHeader_advance.1, moved⟩

theorem DataArea.step (area : DataArea pStat (elements + 1))
    (narrow : stored.length ≤ pStat.size.toNat) :
    DataArea (pStat.step stored) elements := by
  obtain ⟨header, moved⟩ := step_spec area narrow
  have product : (elements + 1) * pStat.size.toNat =
      elements * pStat.size.toNat + pStat.size.toNat :=
    Nat.succ_mul _ _
  have inside := area.inside (Nat.succ_pos _)
  have disjoint := area.disjoint (Nat.succ_pos _)
  refine ⟨?_, fun _ => ?_, fun _ => ?_⟩
  · rw [header.size]
    exact area.natural
  · rw [moved, header.size, header.statSz]
    omega
  · rw [moved, header.size, header.io]
    omega

theorem after_step (area : DataArea pStat (elements + 1))
    (whole : stored.length = pStat.size.toNat ∨ stored = [] ∧ rest = [])
    (narrow : rest.length ≤ elements * pStat.size.toNat) :
    (pStat.step stored).after elements rest =
      pStat.after (elements + 1) (stored ++ rest) := by
  have product : (elements + 1) * pStat.size.toNat =
      elements * pStat.size.toNat + pStat.size.toNat :=
    Nat.succ_mul _ _
  have disjoint := area.disjoint (Nat.succ_pos _)
  have small : stored.length ≤ pStat.size.toNat := by
    rcases whole with exact | ⟨rfl, -⟩
    · omega
    · exact Nat.zero_le _
  obtain ⟨header, moved⟩ := step_spec area small
  have ends :
      pStat.dataOffset.toNat + pStat.size.toNat +
          elements * pStat.size.toNat =
        pStat.dataOffset.toNat + (elements + 1) * pStat.size.toNat := by
    omega
  have patched :
      (pStat.step stored).patch
          (pStat.dataOffset.toNat + pStat.size.toNat) rest =
        (pStat.patch pStat.dataOffset.toNat (stored ++ rest)).setDataOffset
          ((pStat.patch pStat.dataOffset.toNat stored).dataOffset +
            (pStat.patch pStat.dataOffset.toNat stored).size.setWidth
              64) := by
    unfold KvmRun.step KvmRun.advance
    rcases whole with exact | ⟨rfl, rfl⟩
    · rw [KvmRun.patch_setDataOffset, ← exact,
        KvmRun.patch_patch_append]
      change _ ≤ pStat.io ∨ pStat.io + 16 ≤ _
      omega
    · rw [KvmRun.patch_nil, KvmRun.patch_nil, List.append_nil,
        KvmRun.patch_nil]
  unfold KvmRun.after
  rw [moved, header.size, ends, patched,
    KvmRun.setDataOffset_setDataOffset]

theorem outAccesses_succ (area : DataArea pStat (elements + 1)) :
    pStat.outAccesses (elements + 1) =
      outAccess pStat.size pStat.port
          (pStat.bytes pStat.dataOffset.toNat pStat.size.toNat) ::
        (pStat.step []).outAccesses elements := by
  have product : (elements + 1) * pStat.size.toNat =
      elements * pStat.size.toNat + pStat.size.toNat :=
    Nat.succ_mul _ _
  have disjoint := area.disjoint (Nat.succ_pos _)
  obtain ⟨header, moved⟩ :=
    @step_spec pStat elements [] area (Nat.zero_le _)
  unfold KvmRun.outAccesses
  rw [List.range_succ_eq_map, List.map_cons, List.map_map, header.size,
    header.port, moved, Nat.zero_mul, Nat.add_zero]
  refine congrArg _ (List.map_congr_left fun index member => ?_)
  have later := List.mem_range.mp member
  have upper : index * pStat.size.toNat + pStat.size.toNat ≤
      elements * pStat.size.toNat := by
    rw [← Nat.succ_mul]
    exact Nat.mul_le_mul_right _ later
  have position :
      pStat.dataOffset.toNat + index.succ * pStat.size.toNat =
        pStat.dataOffset.toNat + pStat.size.toNat +
          index * pStat.size.toNat := by
    rw [Nat.succ_mul]
    omega
  change outAccess _ _ (pStat.bytes (_ + index.succ * _) _) = _
  rw [position, step_nil]
  unfold KvmRun.advance
  rw [KvmRun.bytes_setDataOffset]
  omega

theorem inAccesses_of_sameHeader {next : KvmRun}
    (header : KvmRun.SameHeader pStat next) :
    next.inAccesses elements = pStat.inAccesses elements := by
  unfold KvmRun.inAccesses
  rw [header.size, header.port]

/-- Without elements nothing changes. -/
theorem after_zero : pStat.after 0 [] = pStat := by
  unfold KvmRun.after
  rw [KvmRun.patch_nil, Nat.zero_mul, Nat.add_zero,
    BitVec.ofNat_toNat, BitVec.setWidth_eq]
  refine KvmRun.ext_byte rfl rfl fun index => ?_
  have read :
      leBytes 8 pStat.dataOffset = pStat.bytes (pStat.io + 8) 8 := by
    have back :=
      @leBytes_leValue 64 (pStat.bytes (pStat.io + 8) 8)
        (by rw [KvmRun.bytes_length])
    rw [KvmRun.bytes_length] at back
    exact back
  unfold KvmRun.setDataOffset
  rw [KvmRun.byte_patch, read, KvmRun.bytes_length]
  by_cases cursor : pStat.io + 8 ≤ index ∧ index < pStat.io + 8 + 8
  · rw [if_pos cursor, List.getD_eq_getElem _ _
      (by rw [KvmRun.bytes_length]; omega)]
    simp only [KvmRun.bytes, List.getElem_map, List.getElem_range]
    congr 1
    omega
  · rw [if_neg cursor]

/-- Writing the elements at the cursor is as many single writes. -/
theorem outLoop_eq {c : Nat} {state : σ}
    (counted : pStat.count.toNat = c + elements)
    (area : DataArea pStat elements) :
    outLoop table c pStat state = (do
      let (_, final) ←
        run (ioAccess table) state (pStat.outAccesses elements)
      pure (0, pStat.after elements [], final)) := by
  induction elements generalizing c pStat state with
  | zero =>
      rw [outLoop, if_neg (by omega), after_zero]
      rfl
  | succ elements inductionHypothesis =>
      obtain ⟨header, -⟩ :=
        @step_spec pStat elements [] area (Nat.zero_le _)
      have left : (pStat.step []).count.toNat = c + 1 + elements := by
        rw [header.count]
        omega
      have room : pStat.dataOffset.toNat + pStat.size.toNat ≤
          pStat.statSz := by
        have inside := area.inside (Nat.succ_pos _)
        rw [Nat.succ_mul] at inside
        omega
      have first := @outElement_eq _ table pStat state area.natural room
      have finish :=
        @after_step pStat elements [] [] area (Or.inr ⟨rfl, rfl⟩)
          (Nat.zero_le _)
      rw [outLoop, if_pos (by omega), outAccesses_succ area, run, ← first]
      cases outElement table pStat state with
      | error stop => rfl
      | ok next =>
          rw [step_nil] at left finish ⊢
          have rest :=
            @inductionHypothesis pStat.advance (c + 1) next left
              (step_nil ▸ area.step (Nat.zero_le _))
          simp only [Outcome.ok_bind, Outcome.pure_eq_ok] at rest ⊢
          rw [rest, finish]
          cases run (ioAccess table) next
            (pStat.advance.outAccesses elements) with
          | error stop => rfl
          | ok ended => rfl

/-- Each of the single reads delivers the bytes of an element. -/
theorem lengths_of_inAccesses {size : Uint8} {port : Uint16}
    (natural : NaturalSize size) {state final : σ}
    {responses : List IoData}
    (ran : run (ioAccess table) state
        (List.replicate elements (inAccess size port)) =
      .ok (responses, final)) :
    responses.length = elements ∧
      ∀ response ∈ responses,
        (dataBytes response).length = size.toNat := by
  induction elements generalizing state responses with
  | zero =>
      cases ran
      exact ⟨rfl, fun _ none => absurd none List.not_mem_nil⟩
  | succ elements inductionHypothesis =>
      rw [List.replicate_succ] at ran
      rcases run_cons_eq_ok_iff.mp ran with
        ⟨response, next, others, called, ranRest, same⟩
      rcases inductionHypothesis ranRest with ⟨length, every⟩
      rw [same]
      refine ⟨congrArg (· + 1) length, ?_⟩
      intro other member
      rcases List.mem_cons.mp member with first | later
      · rw [first]
        exact length_dataBytes natural called
      · exact every other later

theorem length_flatMap_dataBytes {size : Nat} {responses : List IoData}
    (every : ∀ response ∈ responses,
      (dataBytes response).length = size) :
    (responses.flatMap dataBytes).length = responses.length * size := by
  induction responses with
  | nil =>
      exact (Nat.zero_mul _).symm
  | cons response others inductionHypothesis =>
      have rest :=
        inductionHypothesis fun other later =>
          every other (List.mem_cons_of_mem _ later)
      rw [List.flatMap_cons, List.length_append, rest,
        every response List.mem_cons_self, List.length_cons, Nat.succ_mul]
      omega

/-- Reading the elements at the cursor is as many single reads, which store
what they deliver. -/
theorem inLoop_eq {c : Nat} {state : σ}
    (counted : pStat.count.toNat = c + elements)
    (area : DataArea pStat elements) :
    inLoop table c pStat state = (do
      let (responses, final) ←
        run (ioAccess table) state (pStat.inAccesses elements)
      pure (0, pStat.after elements (responses.flatMap dataBytes),
        final)) := by
  induction elements generalizing c pStat state with
  | zero =>
      rw [inLoop, if_neg (by omega)]
      change _ = Except.ok (0, pStat.after 0 [], state)
      rw [after_zero]
      rfl
  | succ elements inductionHypothesis =>
      have room : pStat.dataOffset.toNat + pStat.size.toNat ≤
          pStat.statSz := by
        have inside := area.inside (Nat.succ_pos _)
        rw [Nat.succ_mul] at inside
        omega
      have split :
          pStat.inAccesses (elements + 1) =
            inAccess pStat.size pStat.port ::
              pStat.inAccesses elements := List.replicate_succ
      rw [inLoop, if_pos (by omega), inElement_eq area.natural room, split,
        run]
      cases called :
          ioAccess table state (inAccess pStat.size pStat.port) with
      | error stop => rfl
      | ok delivered =>
          obtain ⟨val, next⟩ := delivered
          have length := length_dataBytes area.natural called
          have narrow := Nat.le_of_eq length
          obtain ⟨header, -⟩ := step_spec area narrow
          have left :
              (pStat.step (dataBytes val)).count.toNat =
                c + 1 + elements := by
            rw [header.count]
            omega
          have rest :=
            @inductionHypothesis (pStat.step (dataBytes val)) (c + 1) next
              left (area.step narrow)
          rw [inAccesses_of_sameHeader header] at rest
          change inLoop table (c + 1) (pStat.step (dataBytes val)) next = _
          rw [rest]
          simp only [Outcome.ok_bind]
          cases ran : run (ioAccess table) next
              (pStat.inAccesses elements) with
          | error stop =>
              simp only [Outcome.error_bind]
          | ok ended =>
              obtain ⟨responses, final⟩ := ended
              obtain ⟨answered, every⟩ :=
                lengths_of_inAccesses area.natural ran
              have total := length_flatMap_dataBytes every
              rw [answered] at total
              have finish :=
                after_step area (Or.inl length) (Nat.le_of_eq total)
              simp only [Outcome.ok_bind, Outcome.pure_eq_ok, finish,
                List.flatMap_cons]

end Loop

/-! ## The whole exit -/

/-- The single accesses that the exit stands for. -/
def KvmRun.accesses (pStat : KvmRun) : List IoAccess :=
  if pStat.direction = kvmExitIoOut then
    pStat.outAccesses pStat.count.toNat
  else pStat.inAccesses pStat.count.toNat

/-- What is found where after the accesses were answered. -/
structure Transferred (pStat after : KvmRun) (responses : List IoData) :
    Prop where
  cursor : after.dataOffset.toNat =
    pStat.dataOffset.toNat + pStat.count.toNat * pStat.size.toNat
  header : KvmRun.SameHeader pStat after
  /-- Each read is stored at its element. -/
  element : pStat.direction ≠ kvmExitIoOut →
    ∀ index response, responses[index]? = some response →
      after.bytes
          (pStat.dataOffset.toNat + index * pStat.size.toNat)
          pStat.size.toNat =
        dataBytes response
  /-- A write stores nothing. -/
  written : pStat.direction = kvmExitIoOut →
    ∀ index, index < pStat.io + 8 ∨ pStat.io + 16 ≤ index →
      after.byte index = pStat.byte index
  /-- Outside the data area only the cursor changes. -/
  frame : ∀ index,
    index < pStat.dataOffset.toNat ∨
        pStat.dataOffset.toNat + pStat.count.toNat * pStat.size.toNat ≤
          index →
      index < pStat.io + 8 ∨ pStat.io + 16 ≤ index →
        after.byte index = pStat.byte index

/-- Writes deliver nothing. -/
theorem dataBytes_of_outAccesses {table : IoTable σ} {size : Uint8}
    {port : Uint16} {data : Nat → List Uint8} {indices : List Nat}
    {state final : σ} {responses : List IoData}
    (ran : run (ioAccess table) state
        (indices.map fun index => outAccess size port (data index)) =
      .ok (responses, final)) :
    responses.flatMap dataBytes = [] := by
  induction indices generalizing state responses with
  | nil =>
      cases ran
      rfl
  | cons index indices inductionHypothesis =>
      rcases run_cons_eq_ok_iff.mp ran with
        ⟨response, next, others, called, ranRest, same⟩
      have none : response = .none := by
        unfold outAccess at called
        split at called
        · rcases Outcome.bind_eq_ok_iff.mp called with ⟨_, -, done⟩
          cases done
          rfl
        · split at called
          · rcases Outcome.bind_eq_ok_iff.mp called with ⟨_, -, done⟩
            cases done
            rfl
          · rcases Outcome.bind_eq_ok_iff.mp called with ⟨_, -, done⟩
            cases done
            rfl
      rw [same, List.flatMap_cons, none, inductionHypothesis ranRest]
      rfl

section Transfer

variable {table : IoTable σ} {pStat : KvmRun} {stored : List Uint8}

/-- A part of a patch is found behind the part before it. -/
theorem bytes_patch_part {offset : Nat} {front part back : List Uint8} :
    (pStat.patch offset (front ++ (part ++ back))).bytes
        (offset + front.length) part.length = part := by
  rw [← KvmRun.patch_patch_append, ← KvmRun.patch_patch_append,
    KvmRun.bytes_patch_of_disjoint (Or.inl (Nat.le_refl _))]
  exact KvmRun.bytes_patch_self

theorem after_header (area : DataArea pStat pStat.count.toNat)
    (narrow : stored.length ≤ pStat.count.toNat * pStat.size.toNat) :
    KvmRun.SameHeader pStat (pStat.after pStat.count.toNat stored) ∧
      (pStat.after pStat.count.toNat stored).dataOffset.toNat =
        pStat.dataOffset.toNat +
          pStat.count.toNat * pStat.size.toNat := by
  have positive := pStat.positive
  have patched :
      KvmRun.SameHeader pStat
        (pStat.patch pStat.dataOffset.toNat stored) := by
    rcases Nat.eq_zero_or_pos pStat.count.toNat with none | some
    · rw [none, Nat.zero_mul, Nat.le_zero] at narrow
      rw [List.eq_nil_of_length_eq_zero narrow, KvmRun.patch_nil]
      exact ⟨rfl, rfl, rfl, rfl, rfl, rfl⟩
    · have disjoint := area.disjoint some
      exact (KvmRun.sameHeader_patch (by omega)).1
  have bound :
      pStat.dataOffset.toNat + pStat.count.toNat * pStat.size.toNat <
        2 ^ 64 := by
    rcases Nat.eq_zero_or_pos pStat.count.toNat with none | some
    · rw [none, Nat.zero_mul]
      exact pStat.dataOffset.isLt
    · have inside := area.inside some
      omega
  obtain ⟨header, cursor⟩ :=
    @KvmRun.sameHeader_setDataOffset
      (pStat.patch pStat.dataOffset.toNat stored)
      (BitVec.ofNat 64 (pStat.dataOffset.toNat +
        pStat.count.toNat * pStat.size.toNat))
  refine ⟨patched.trans header, ?_⟩
  unfold KvmRun.after
  rw [cursor, BitVec.toNat_ofNat, Nat.mod_eq_of_lt bound]

/-- Outside what was stored only the cursor changes. -/
theorem after_byte {elements index : Nat}
    (outside : index < pStat.dataOffset.toNat ∨
      pStat.dataOffset.toNat + stored.length ≤ index)
    (cursor : index < pStat.io + 8 ∨ pStat.io + 16 ≤ index) :
    (pStat.after elements stored).byte index = pStat.byte index := by
  have io :
      (pStat.patch pStat.dataOffset.toNat stored).io = pStat.io := rfl
  unfold KvmRun.after KvmRun.setDataOffset
  rw [KvmRun.byte_patch, leBytes_length, io, if_neg (by omega),
    KvmRun.byte_patch, if_neg (by omega)]

theorem transferred_of_run {state final : σ} {responses : List IoData}
    (area : DataArea pStat pStat.count.toNat)
    (ran : run (ioAccess table) state pStat.accesses =
      .ok (responses, final)) :
    Transferred pStat
      (pStat.after pStat.count.toNat (responses.flatMap dataBytes))
      responses := by
  unfold KvmRun.accesses at ran
  by_cases out : pStat.direction = kvmExitIoOut
  · rw [if_pos out] at ran
    have nothing := dataBytes_of_outAccesses ran
    rw [nothing]
    obtain ⟨header, cursor⟩ :=
      @after_header pStat [] area (Nat.zero_le _)
    refine ⟨cursor, header, fun reads => absurd out reads, ?_, ?_⟩
    · intro _ index elsewhere
      exact after_byte (by rw [List.length_nil]; omega) elsewhere
    · intro index _ elsewhere
      exact after_byte (by rw [List.length_nil]; omega) elsewhere
  · rw [if_neg out] at ran
    obtain ⟨answered, every⟩ := lengths_of_inAccesses area.natural ran
    have total := length_flatMap_dataBytes every
    rw [answered] at total
    obtain ⟨header, cursor⟩ := after_header area (Nat.le_of_eq total)
    refine ⟨cursor, header, ?_, fun writes => absurd writes out, ?_⟩
    · intro _ index response found
      obtain ⟨bound, same⟩ := List.getElem?_eq_some_iff.mp found
      have parts :
          responses.flatMap dataBytes =
            (responses.take index).flatMap dataBytes ++
              (dataBytes response ++
                (responses.drop (index + 1)).flatMap dataBytes) := by
        rw [← same, ← List.flatMap_cons, ← List.flatMap_append,
          ← List.drop_eq_getElem_cons bound, List.take_append_drop]
      have front :
          ((responses.take index).flatMap dataBytes).length =
            index * pStat.size.toNat := by
        rw [length_flatMap_dataBytes fun other member =>
          every other (List.mem_of_mem_take member), List.length_take]
        congr 1
        omega
      have part := every response (List.mem_of_getElem? found)
      have upper : index * pStat.size.toNat + pStat.size.toNat ≤
          pStat.count.toNat * pStat.size.toNat := by
        rw [← Nat.succ_mul]
        exact Nat.mul_le_mul_right _ (by omega)
      have disjoint := area.disjoint (by omega)
      unfold KvmRun.after
      rw [KvmRun.bytes_setDataOffset, parts, ← front, ← part,
        bytes_patch_part]
      change _ ≤ pStat.io ∨ pStat.io + 16 ≤ _
      omega
    · intro index outside elsewhere
      exact after_byte (by rw [total]; omega) elsewhere

end Transfer

/-- An exit for string I/O over a data area in the mapping that does not cover
the header does what the single accesses of its elements do, and stores what
they deliver at the elements. -/
theorem handleIo_eq_run (table : IoTable σ) (pStat : KvmRun) (state : σ)
    (area : DataArea pStat pStat.count.toNat) :
    (handleIo table pStat state = do
        let (responses, final) ←
          run (ioAccess table) state pStat.accesses
        pure (0,
          pStat.after pStat.count.toNat (responses.flatMap dataBytes),
          final)) ∧
      ∀ responses final,
        run (ioAccess table) state pStat.accesses =
            .ok (responses, final) →
          Transferred pStat
            (pStat.after pStat.count.toNat (responses.flatMap dataBytes))
            responses := by
  refine ⟨?_, fun responses final ran => transferred_of_run area ran⟩
  unfold handleIo KvmRun.accesses
  by_cases out : pStat.direction = kvmExitIoOut
  · rw [if_pos out, if_pos out, outLoop_eq (Nat.zero_add _).symm area]
    cases ran : run (ioAccess table) state
        (pStat.outAccesses pStat.count.toNat) with
    | error stop => rfl
    | ok ended =>
        obtain ⟨responses, final⟩ := ended
        have nothing := dataBytes_of_outAccesses ran
        simp only [Outcome.ok_bind, nothing]
  · rw [if_neg out, if_neg out, inLoop_eq (Nat.zero_add _).symm area]

/-- A device that counts its reads. -/
def readCounter : IoHandler Nat where
  base := 0x1F0
  mask := 0xFFF8
  inb := some fun _ reads => .ok (BitVec.ofNat 8 reads, reads + 1)
  inw := none
  inl := none
  outb := none
  outw := none
  outl := none

/-- A read of two bytes from port 0x1F0 to offset 64. -/
def twoBytes : KvmRun where
  statSz := 4096
  io := 32
  byte := fun index =>
    [0, 1, 0xF0, 0x01, 2, 0, 0, 0, 64, 0, 0, 0, 0, 0, 0, 0].getD
      (index - 32) 0
  positive := by decide
  header := by decide

theorem handleIo_eq_run_twoBytes :
    ∃ after,
      handleIo (ioRegisterHandler IoTable.empty readCounter).2 twoBytes 5 =
          .ok (0, after, 7) ∧
        after.dataOffset.toNat = 64 + 2 * 1 := by
  have area : DataArea twoBytes twoBytes.count.toNat :=
    ⟨Or.inl (by decide), fun _ => by decide, fun _ => Or.inr (by decide)⟩
  have both :=
    handleIo_eq_run (ioRegisterHandler IoTable.empty readCounter).2
      twoBytes 5 area
  have ran :
      run (ioAccess (ioRegisterHandler IoTable.empty readCounter).2) 5
          twoBytes.accesses =
        .ok ([.byte 5, .byte 6], 7) := by
    rfl
  have transferred := both.2 _ _ ran
  refine ⟨_, ?_, transferred.cursor⟩
  rw [both.1, ran]
  rfl

end Kvmulate.System
