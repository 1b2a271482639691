import Kvmulate.Lib.Interleave
import Kvmulate.Vga.Indices

/-!
# Programming the palette

The DAC has one data port and an address for each direction.  A write sequence
advances the address of the writes and a read sequence that of the reads, so
the two may share the port in any order.
-/

namespace Kvmulate.Vga

open DeviceLib

/-- Address an entry and write the bytes from there on. -/
def dacWrites (entry : Uint8) (values : List Uint8) : List VgaAccess :=
  .outb 0x3C8 entry :: values.map (.outb 0x3C9)

/-- Address an entry and read the bytes from there on. -/
def dacReads (entry : Uint8) (count : Nat) : List VgaAccess :=
  .outb 0x3C7 entry :: List.replicate count (.inb 0x3C9)

/-- The values that a run delivers to the guest. -/
def delivered (responses : List VgaResponse) : List Uint16 :=
  responses.filterMap id

/-! ## One access -/

section Accesses

variable {ctx : VgaCtx}

theorem vgaAccess_writeAddress (entry : Uint8) :
    vgaAccess ctx (.outb 0x3C8 entry) =
      .ok (none, { ctx with pelWriteAddr := entry.setWidth 16 * 3 }) := rfl

theorem vgaAccess_readAddress (entry : Uint8) :
    vgaAccess ctx (.outb 0x3C7 entry) =
      .ok (none, { ctx with pelReadAddr := entry.setWidth 16 * 3 }) := rfl

theorem vgaAccess_writeData {position : Nat}
    (address : ctx.pelWriteAddr.toNat = position)
    (inside : position < 768) (val : Uint8) :
    vgaAccess ctx (.outb 0x3C9 val) =
      .ok (none, { ctx with
        pel := ctx.pel.setIfInBounds position val
        pelWriteAddr := ctx.pelWriteAddr + 1 }) := by
  have indexed : Indexes 768 (ctx.pelWriteAddr.toNat : Int) := by
    rw [address]
    exact ⟨by omega, by omega⟩
  have stored :
      store ctx.pel (ctx.pelWriteAddr.toNat : Int) val =
        .ok (ctx.pel.setIfInBounds position val) := by
    rw [store_of_indexes indexed, address]
    rfl
  change (paletteWrite ctx val >>= fun next => Except.ok (none, next)) = _
  rw [paletteWrite, stored]
  rfl

theorem vgaAccess_readData {position : Nat} {val : Uint8}
    (address : ctx.pelReadAddr.toNat = position)
    (byte : ctx.pel.toList[position]? = some val) :
    vgaAccess ctx (.inb 0x3C9) =
      .ok (some (val.setWidth 16),
        { ctx with pelReadAddr := ctx.pelReadAddr + 1 }) := by
  have loaded : load ctx.pel (ctx.pelReadAddr.toNat : Int) = .ok val := by
    rw [address]
    exact load_eq_ok_iff.mpr byte
  change
    (paletteRead ctx >>= fun result =>
      Except.ok (some (result.1.setWidth 16), result.2)) = _
  rw [paletteRead, loaded]
  rfl

end Accesses

/-! ## What is left of the two programs -/

section Programs

variable {ctx next : VgaCtx} {first stored count given : Nat}
variable {values : List Uint8} {input : VgaAccess}
variable {remaining : List VgaAccess}

/-- The write sequence after `stored` of its values. -/
inductive WritesLeft (ctx : VgaCtx) (first : Nat) (values : List Uint8) :
    Nat → List VgaAccess → Prop
  | whole {entry : Uint8} (address : first = 3 * entry.toNat) :
      WritesLeft ctx first values 0 (dacWrites entry values)
  | data {stored : Nat} (within : stored ≤ values.length)
      (address : ctx.pelWriteAddr.toNat = first + stored) :
      WritesLeft ctx first values stored
        ((values.drop stored).map (.outb 0x3C9))

/-- The read sequence after `given` of its bytes. -/
inductive ReadsLeft (ctx : VgaCtx) (first count : Nat) :
    Nat → List VgaAccess → Prop
  | whole {entry : Uint8} (address : first = 3 * entry.toNat) :
      ReadsLeft ctx first count 0 (dacReads entry count)
  | data {given : Nat} (within : given ≤ count)
      (address : ctx.pelReadAddr.toNat = first + given) :
      ReadsLeft ctx first count given
        (List.replicate (count - given) (.inb 0x3C9))

theorem WritesLeft.congr
    (left : WritesLeft ctx first values stored remaining)
    (same : next.pelWriteAddr = ctx.pelWriteAddr) :
    WritesLeft next first values stored remaining := by
  cases left with
  | whole address => exact WritesLeft.whole address
  | data within address =>
      exact WritesLeft.data within (same ▸ address)

theorem ReadsLeft.congr (left : ReadsLeft ctx first count given remaining)
    (same : next.pelReadAddr = ctx.pelReadAddr) :
    ReadsLeft next first count given remaining := by
  cases left with
  | whole address => exact ReadsLeft.whole address
  | data within address =>
      exact ReadsLeft.data within (same ▸ address)

theorem WritesLeft.finished
    (left : WritesLeft ctx first values stored []) :
    stored = values.length := by
  generalize nothing : ([] : List VgaAccess) = remaining at left
  cases left with
  | whole address => cases nothing
  | data within address =>
      have short := congrArg List.length nothing
      rw [List.length_map, List.length_drop, List.length_nil] at short
      omega

theorem ReadsLeft.finished (left : ReadsLeft ctx first count given []) :
    given = count := by
  generalize nothing : ([] : List VgaAccess) = remaining at left
  cases left with
  | whole address => cases nothing
  | data within address =>
      have short := congrArg List.length nothing
      rw [List.length_replicate, List.length_nil] at short
      omega

/-- The next access of a write sequence sets the address or stores a value. -/
theorem WritesLeft.head
    (left : WritesLeft ctx first values stored (input :: remaining)) :
    (∃ entry : Uint8, input = .outb 0x3C8 entry ∧
        first = 3 * entry.toNat ∧ stored = 0 ∧
          remaining = values.map (.outb 0x3C9)) ∨
      ∃ val, input = .outb 0x3C9 val ∧ values[stored]? = some val ∧
        ctx.pelWriteAddr.toNat = first + stored ∧
          remaining = (values.drop (stored + 1)).map (.outb 0x3C9) := by
  generalize more : input :: remaining = everything at left
  cases left with
  | whole address =>
      cases more
      exact Or.inl ⟨_, rfl, address, rfl, rfl⟩
  | data within address =>
      refine Or.inr ?_
      have some : stored < values.length := by
        have longer := congrArg List.length more
        rw [List.length_map, List.length_drop, List.length_cons] at longer
        omega
      rw [List.drop_eq_getElem_cons some, List.map_cons] at more
      injection more with head tail
      exact ⟨values[stored], head, List.getElem?_eq_getElem some, address,
        tail⟩

/-- The next access of a read sequence sets the address or reads a byte. -/
theorem ReadsLeft.head
    (left : ReadsLeft ctx first count given (input :: remaining)) :
    (∃ entry : Uint8, input = .outb 0x3C7 entry ∧
        first = 3 * entry.toNat ∧ given = 0 ∧
          remaining = List.replicate count (.inb 0x3C9)) ∨
      input = .inb 0x3C9 ∧ given < count ∧
        ctx.pelReadAddr.toNat = first + given ∧
          remaining =
            List.replicate (count - (given + 1)) (.inb 0x3C9) := by
  generalize more : input :: remaining = everything at left
  cases left with
  | whole address =>
      cases more
      exact Or.inl ⟨_, rfl, address, rfl, rfl⟩
  | data within address =>
      refine Or.inr ?_
      have some : given < count := by
        have longer := congrArg List.length more
        rw [List.length_replicate, List.length_cons] at longer
        omega
      have split : count - given = count - (given + 1) + 1 := by
        omega
      rw [split, List.replicate_succ] at more
      injection more with head tail
      exact ⟨head, some, address, tail⟩

end Programs

/-! ## The two programs together -/

/-- The palette of `start` with the first `stored` values put in. -/
def Patched (start pel : Vector Uint8 768) (first : Nat)
    (values : List Uint8) (stored : Nat) : Prop :=
  ∀ index : Nat, pel.toList[index]? =
    if first ≤ index ∧ index < first + stored then values[index - first]?
    else start.toList[index]?

theorem patched_none (start : Vector Uint8 768) (first : Nat)
    (values : List Uint8) : Patched start start first values 0 := by
  intro index
  have outside : ¬ (first ≤ index ∧ index < first + 0) := by
    omega
  rw [if_neg outside]

theorem Patched.store {start pel : Vector Uint8 768} {first stored : Nat}
    {values : List Uint8} {val : Uint8}
    (patched : Patched start pel first values stored)
    (value : values[stored]? = some val)
    (inside : first + stored < 768) :
    Patched start (pel.setIfInBounds (first + stored) val) first values
      (stored + 1) := by
  intro index
  have length : pel.toList.length = 768 := Vector.length_toList
  rw [Vector.toList_setIfInBounds, List.getElem?_set, length]
  by_cases here : first + stored = index
  · have within : first ≤ index ∧ index < first + (stored + 1) := by
      omega
    have last : index - first = stored := by
      omega
    rw [if_pos here, if_pos (here ▸ inside), if_pos within, last, value]
  · have same :
        (first ≤ index ∧ index < first + (stored + 1)) ↔
          first ≤ index ∧ index < first + stored := by
      omega
    rw [if_neg here, patched index]
    exact (if_congr same rfl rfl).symm

theorem delivered_silent (before : List VgaResponse) :
    delivered (before ++ [none]) = delivered before := by
  rw [delivered, List.filterMap_append]
  exact List.append_nil _

theorem delivered_value (before : List VgaResponse) (val : Uint16) :
    delivered (before ++ [some val]) = delivered before ++ [val] :=
  List.filterMap_append

/-- What holds of a write sequence and a read sequence under way: the palette
has the values stored so far, and the bytes delivered so far are those that
were there before, except where the write sequence goes. -/
structure Shared (start : VgaCtx) (writeFirst : Nat) (values : List Uint8)
    (readFirst count stored given : Nat) (writer reader : List VgaAccess)
    (before : List VgaResponse) (ctx : VgaCtx) : Prop where
  writes : WritesLeft ctx writeFirst values stored writer
  reads : ReadsLeft ctx readFirst count given reader
  patched : Patched start.pel ctx.pel writeFirst values stored
  length : (delivered before).length = given
  bytes : ∀ index < given,
    (readFirst + index < writeFirst ∨
      writeFirst + values.length ≤ readFirst + index) →
    (delivered before)[index]? =
      start.pel.toList[readFirst + index]?.map (BitVec.setWidth 16)
  others : ctx = { start with
    pel := ctx.pel
    pelWriteAddr := ctx.pelWriteAddr
    pelReadAddr := ctx.pelReadAddr }

section Shared

variable {start ctx : VgaCtx} {writeFirst readFirst count : Nat}
variable {stored given : Nat} {values : List Uint8} {input : VgaAccess}
variable {writer reader : List VgaAccess} {before : List VgaResponse}

theorem Shared.write
    (shared : Shared start writeFirst values readFirst count stored given
      (input :: writer) reader before ctx)
    (inside : ∀ index < values.length, writeFirst + index < 768) :
    ∃ response next later,
      vgaAccess ctx input = .ok (response, next) ∧
        Shared start writeFirst values readFirst count later given writer
          reader (before ++ [response]) next := by
  rcases shared.writes.head with
    ⟨entry, rfl, address, rfl, rfl⟩ | ⟨val, rfl, value, address, rfl⟩
  · refine ⟨none, _, 0, vgaAccess_writeAddress entry, ?_⟩
    have pointed :
        (entry.setWidth 16 * 3 : Uint16).toNat = writeFirst + 0 := by
      rw [toNat_dacAddress, address]
      rfl
    exact {
      writes := WritesLeft.data (Nat.zero_le values.length) pointed
      reads := shared.reads.congr rfl
      patched := shared.patched
      length := by
        rw [delivered_silent]
        exact shared.length
      bytes := by
        rw [delivered_silent]
        exact shared.bytes
      others := by
        rw [shared.others] }
  · have some : stored < values.length :=
      (List.getElem?_eq_some_iff.mp value).1
    have small := inside stored some
    refine ⟨none, _, stored + 1, vgaAccess_writeData address small val, ?_⟩
    have pointed :
        (ctx.pelWriteAddr + 1).toNat = writeFirst + (stored + 1) := by
      rw [toNat_dacNext _ (by omega), address, Nat.add_assoc]
    exact {
      writes := WritesLeft.data some pointed
      reads := shared.reads.congr rfl
      patched := shared.patched.store value small
      length := by
        rw [delivered_silent]
        exact shared.length
      bytes := by
        rw [delivered_silent]
        exact shared.bytes
      others := by
        rw [shared.others] }

theorem WritesLeft.stored_le
    (left : WritesLeft ctx writeFirst values stored writer) :
    stored ≤ values.length := by
  cases left with
  | whole address => exact Nat.zero_le values.length
  | data within address => exact within

/-- The next byte of the palette is that of the start, where the write sequence
does not go. -/
theorem Shared.bytes_next {val : Uint8}
    (shared : Shared start writeFirst values readFirst count stored given
      writer reader before ctx)
    (byte : ctx.pel.toList[readFirst + given]? = some val) :
    ∀ index < given + 1,
      (readFirst + index < writeFirst ∨
        writeFirst + values.length ≤ readFirst + index) →
      (delivered before ++ [val.setWidth 16])[index]? =
        start.pel.toList[readFirst + index]?.map (BitVec.setWidth 16) := by
  intro index present apart
  by_cases earlier : index < given
  · rw [List.getElem?_append_left (shared.length.symm ▸ earlier)]
    exact shared.bytes index earlier apart
  · have last : index = given := by
      omega
    have behind := shared.writes.stored_le
    have untouched :
        ¬ (writeFirst ≤ readFirst + given ∧
          readFirst + given < writeFirst + stored) := by
      omega
    have original := shared.patched (readFirst + given)
    rw [if_neg untouched, byte] at original
    rw [last, ← original, ← shared.length, List.getElem?_concat_length]
    rfl

theorem Shared.read
    (shared : Shared start writeFirst values readFirst count stored given
      writer (input :: reader) before ctx)
    (inside : ∀ index < count, readFirst + index < 768) :
    ∃ response next later,
      vgaAccess ctx input = .ok (response, next) ∧
        Shared start writeFirst values readFirst count stored later writer
          reader (before ++ [response]) next := by
  rcases shared.reads.head with
    ⟨entry, rfl, address, rfl, rfl⟩ | ⟨rfl, more, address, rfl⟩
  · refine ⟨none, _, 0, vgaAccess_readAddress entry, ?_⟩
    have pointed :
        (entry.setWidth 16 * 3 : Uint16).toNat = readFirst + 0 := by
      rw [toNat_dacAddress, address]
      rfl
    exact {
      writes := shared.writes.congr rfl
      reads := ReadsLeft.data (Nat.zero_le count) pointed
      patched := shared.patched
      length := by
        rw [delivered_silent]
        exact shared.length
      bytes := by
        rw [delivered_silent]
        exact shared.bytes
      others := by
        rw [shared.others] }
  · have small := inside given more
    have length : ctx.pel.toList.length = 768 := Vector.length_toList
    obtain ⟨val, byte⟩ :
        ∃ val, ctx.pel.toList[readFirst + given]? = some val :=
      ⟨_, List.getElem?_eq_getElem (length.symm ▸ small)⟩
    refine ⟨_, _, given + 1, vgaAccess_readData address byte, ?_⟩
    have pointed :
        (ctx.pelReadAddr + 1).toNat = readFirst + (given + 1) := by
      rw [toNat_dacNext _ (by omega), address, Nat.add_assoc]
    exact {
      writes := shared.writes.congr rfl
      reads := ReadsLeft.data more pointed
      patched := shared.patched
      length := by
        rw [delivered_value, List.length_append, shared.length]
        rfl
      bytes := by
        rw [delivered_value]
        exact shared.bytes_next byte
      others := by
        rw [shared.others] }

/-- Both programs are under way, wherever they are. -/
def UnderWay (start : VgaCtx) (writeFirst : Nat) (values : List Uint8)
    (readFirst count : Nat) (writer reader : List VgaAccess)
    (before : List VgaResponse) (ctx : VgaCtx) : Prop :=
  ∃ stored given,
    Shared start writeFirst values readFirst count stored given writer
      reader before ctx

theorem UnderWay.write
    (underWay : UnderWay start writeFirst values readFirst count
      (input :: writer) reader before ctx)
    (inside : ∀ index < values.length, writeFirst + index < 768) :
    ∃ response next, vgaAccess ctx input = .ok (response, next) ∧
      UnderWay start writeFirst values readFirst count writer reader
        (before ++ [response]) next := by
  obtain ⟨stored, given, shared⟩ := underWay
  obtain ⟨response, next, later, called, kept⟩ := shared.write inside
  exact ⟨response, next, called, later, given, kept⟩

theorem UnderWay.read
    (underWay : UnderWay start writeFirst values readFirst count writer
      (input :: reader) before ctx)
    (inside : ∀ index < count, readFirst + index < 768) :
    ∃ response next, vgaAccess ctx input = .ok (response, next) ∧
      UnderWay start writeFirst values readFirst count writer reader
        (before ++ [response]) next := by
  obtain ⟨stored, given, shared⟩ := underWay
  obtain ⟨response, next, later, called, kept⟩ := shared.read inside
  exact ⟨response, next, called, stored, later, kept⟩

/-- Both programs run to their end in every order. -/
theorem UnderWay.run {whole : List VgaAccess}
    (underWay : UnderWay start writeFirst values readFirst count writer
      reader before ctx)
    (writesInside : ∀ index < values.length, writeFirst + index < 768)
    (readsInside : ∀ index < count, readFirst + index < 768)
    (merged : Interleaves writer reader whole) :
    ∃ responses final,
      DeviceLib.run vgaAccess ctx whole = .ok (responses, final) ∧
        Shared start writeFirst values readFirst count values.length count
          [] [] (before ++ responses) final := by
  obtain ⟨responses, final, ran, stored, given, shared⟩ :=
    @exists_run_of_interleaves _ _ _ vgaAccess
      (UnderWay start writeFirst values readFirst count)
      (fun now => UnderWay.write now writesInside)
      (fun now => UnderWay.read now readsInside) _ _ _ merged _ _
      underWay
  have allStored := shared.writes.finished
  have allGiven := shared.reads.finished
  subst allStored allGiven
  exact ⟨responses, final, ran, shared⟩

end Shared

/-! ## The round trip -/

/-- The palette holds the values from the entry on, reads them back and is
otherwise as it was. -/
structure Programmed (ctx next : VgaCtx) (entry : Uint8)
    (values : List Uint8) : Prop where
  stored : ∀ index val, values[index]? = some val →
    next.pel.toList[3 * entry.toNat + index]? = some val
  others : ∀ index,
    (index < 3 * entry.toNat ∨
      3 * entry.toNat + values.length ≤ index) →
    next.pel.toList[index]? = ctx.pel.toList[index]?
  readBack : ∃ responses last,
    run vgaAccess next (dacReads entry values.length) =
        .ok (responses, last) ∧
      delivered responses = values.map (BitVec.setWidth 16) ∧
        last.pel = next.pel
  elsewhere : next = { ctx with
    pel := next.pel
    pelWriteAddr := next.pelWriteAddr
    pelReadAddr := next.pelReadAddr }

/-- The bytes from the entry on are delivered as they were before, wherever
no value goes. -/
structure Fetched (ctx : VgaCtx) (entry : Uint8) (count : Nat)
    (written : Uint8) (values : List Uint8)
    (responses : List VgaResponse) : Prop where
  length : (delivered responses).length = count
  bytes : ∀ index < count,
    (3 * entry.toNat + index < 3 * written.toNat ∨
      3 * written.toNat + values.length ≤ 3 * entry.toNat + index) →
    (delivered responses)[index]? =
      ctx.pel.toList[3 * entry.toNat + index]?.map (BitVec.setWidth 16)

section RoundTrip

variable {ctx next : VgaCtx} {entry other : Uint8} {values : List Uint8}
variable {count : Nat}

/-- Only the read sequence is left. -/
theorem underWay_reads (ctx : VgaCtx) (entry : Uint8) (count : Nat) :
    UnderWay ctx ctx.pelWriteAddr.toNat [] (3 * entry.toNat) count []
      (dacReads entry count) [] ctx :=
  ⟨0, 0, {
    writes := WritesLeft.data (Nat.le_refl 0) rfl
    reads := ReadsLeft.whole rfl
    patched := patched_none ctx.pel _ []
    length := rfl
    bytes := fun _ absent => absurd absent (Nat.not_lt_zero _)
    others := rfl }⟩

/-- Only the write sequence is left. -/
theorem underWay_writes (ctx : VgaCtx) (entry : Uint8)
    (values : List Uint8) :
    UnderWay ctx (3 * entry.toNat) values ctx.pelReadAddr.toNat 0
      (dacWrites entry values) [] [] ctx :=
  ⟨0, 0, {
    writes := WritesLeft.whole rfl
    reads := ReadsLeft.data (Nat.le_refl 0) rfl
    patched := patched_none ctx.pel _ values
    length := rfl
    bytes := fun _ absent => absurd absent (Nat.not_lt_zero _)
    others := rfl }⟩

theorem underWay_both (ctx : VgaCtx) (entry other : Uint8)
    (values : List Uint8) (count : Nat) :
    UnderWay ctx (3 * entry.toNat) values (3 * other.toNat) count
      (dacWrites entry values) (dacReads other count) [] ctx :=
  ⟨0, 0, {
    writes := WritesLeft.whole rfl
    reads := ReadsLeft.whole rfl
    patched := patched_none ctx.pel _ values
    length := rfl
    bytes := fun _ absent => absurd absent (Nat.not_lt_zero _)
    others := rfl }⟩

/-- Reading back what the palette holds. -/
theorem Shared.readBack {readFirst given : Nat}
    {start : VgaCtx} {writer reader : List VgaAccess}
    {before : List VgaResponse}
    (shared : Shared start (3 * entry.toNat) values readFirst count
      values.length given writer reader before ctx)
    (inside : 3 * entry.toNat + values.length ≤ 768) :
    ∃ responses last,
      run vgaAccess ctx (dacReads entry values.length) =
          .ok (responses, last) ∧
        delivered responses = values.map (BitVec.setWidth 16) ∧
          last.pel = ctx.pel := by
  obtain ⟨responses, last, ran, reads⟩ :=
    (underWay_reads ctx entry values.length).run
      (fun _ absent => absurd absent (Nat.not_lt_zero _))
      (fun index present => by omega)
      (Interleaves.alone (dacReads entry values.length)).symm
  rw [List.nil_append] at reads
  refine ⟨responses, last, ran, ?_, ?_⟩
  · apply List.ext_getElem?
    intro index
    by_cases present : index < values.length
    · have here :
          3 * entry.toNat ≤ 3 * entry.toNat + index ∧
            3 * entry.toNat + index < 3 * entry.toNat + values.length := by
        omega
      have apart :
          3 * entry.toNat + index < ctx.pelWriteAddr.toNat ∨
            ctx.pelWriteAddr.toNat + 0 ≤ 3 * entry.toNat + index := by
        omega
      rw [reads.bytes index present apart, shared.patched, if_pos here,
        Nat.add_sub_cancel_left, List.getElem?_map]
    · have short : (delivered responses).length ≤ index := by
        rw [reads.length]
        omega
      rw [List.getElem?_eq_none short, List.getElem?_map,
        List.getElem?_eq_none (Nat.le_of_not_lt present)]
      rfl
  · apply Vector.toList_inj.mp
    apply List.ext_getElem?
    intro index
    have nowhere :
        ¬ (ctx.pelWriteAddr.toNat ≤ index ∧
          index < ctx.pelWriteAddr.toNat + 0) := by
      omega
    exact (reads.patched index).trans (if_neg nowhere)

/-- A write sequence that has come to its end. -/
theorem Shared.programmed {readFirst given : Nat}
    {writer reader : List VgaAccess} {before : List VgaResponse}
    (shared : Shared ctx (3 * entry.toNat) values readFirst count
      values.length given writer reader before next)
    (inside : 3 * entry.toNat + values.length ≤ 768) :
    Programmed ctx next entry values where
  stored := by
    intro index val value
    have present : index < values.length :=
      (List.getElem?_eq_some_iff.mp value).1
    have here :
        3 * entry.toNat ≤ 3 * entry.toNat + index ∧
          3 * entry.toNat + index < 3 * entry.toNat + values.length := by
      omega
    rw [shared.patched, if_pos here, Nat.add_sub_cancel_left]
    exact value
  others := by
    intro index apart
    have outside :
        ¬ (3 * entry.toNat ≤ index ∧
          index < 3 * entry.toNat + values.length) := by
      omega
    rw [shared.patched, if_neg outside]
  readBack := shared.readBack inside
  elsewhere := shared.others

/-- For every state, the values written from an entry on are stored there, read
back and change nothing else, also when the accesses of a read sequence come
in between; and that sequence delivers what was there before. -/
theorem palette_roundTrips (ctx : VgaCtx) (entry : Uint8)
    (values : List Uint8)
    (inside : 3 * entry.toNat + values.length ≤ 768) :
    (∃ responses next,
      run vgaAccess ctx (dacWrites entry values) = .ok (responses, next) ∧
        Programmed ctx next entry values) ∧
      ∀ (other : Uint8) (count : Nat) (whole : List VgaAccess),
        3 * other.toNat + count ≤ 768 →
          Interleaves (dacWrites entry values) (dacReads other count)
              whole →
            ∃ responses next,
              run vgaAccess ctx whole = .ok (responses, next) ∧
                Programmed ctx next entry values ∧
                  Fetched ctx other count entry values responses := by
  have writesInside :
      ∀ index < values.length, 3 * entry.toNat + index < 768 := by
    intro index present
    omega
  constructor
  · obtain ⟨responses, next, ran, shared⟩ :=
      (underWay_writes ctx entry values).run writesInside
        (fun _ absent => absurd absent (Nat.not_lt_zero _))
        (Interleaves.alone (dacWrites entry values))
    exact ⟨responses, next, ran, shared.programmed inside⟩
  · intro other count whole readsInside merged
    obtain ⟨responses, next, ran, shared⟩ :=
      (underWay_both ctx entry other values count).run writesInside
        (fun index present => by omega) merged
    rw [List.nil_append] at shared
    exact ⟨responses, next, ran, shared.programmed inside,
      ⟨shared.length, shared.bytes⟩⟩

/-- Entry 255 is programmed with three bytes. -/
theorem palette_roundTrips_lastEntry :
    ∃ responses next,
      run vgaAccess (VgaCtx.zeroed fun _ _ => 0)
          ([.outb 0x3C8 255, .outb 0x3C9 1, .outb 0x3C9 2,
            .outb 0x3C9 3] ++ [.outb 0x3C7 0, .inb 0x3C9]) =
        .ok (responses, next) ∧
        Programmed (VgaCtx.zeroed fun _ _ => 0) next 255 [1, 2, 3] ∧
          Fetched (VgaCtx.zeroed fun _ _ => 0) 0 1 255 [1, 2, 3]
            responses :=
  (palette_roundTrips (VgaCtx.zeroed fun _ _ => 0) 255 [1, 2, 3]
    (by decide)).2 0 1 _ (by decide) (Interleaves.append _ _)

end RoundTrip

end Kvmulate.Vga
