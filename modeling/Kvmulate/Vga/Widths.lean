import Kvmulate.Pci.Identity
import Kvmulate.Vga.RomImage
import Kvmulate.Vga.Stores

/-!
# The widths of an access to the VGA memory

An access of several bytes, beside accesses of one byte each at consecutive
addresses.
-/

namespace Kvmulate.Vga

open DeviceLib Kvmulate.Pci

/-! ## Bytes at consecutive addresses -/

/-- One write for each byte. -/
def writeBytes (address : Uint64) : List Uint8 → Video → Outcome Video
  | [], video => pure video
  | byte :: rest, video => do
      let (_, next) ←
        mmioWrite (mmioDevices video) address 1 [byte] video
      writeBytes (address + 1) rest next

/-- One read for each byte. -/
def readBytes (address : Uint64) :
    Nat → Video → Outcome (List Uint8 × Video)
  | 0, video => pure ([], video)
  | count + 1, video => do
      let (_, first, next) ←
        mmioRead (mmioDevices video) address 1 video
      let (rest, last) ← readBytes (address + 1) count next
      pure (first ++ rest, last)

/-- The write leaves `after`, as writes of single bytes do.  Its bytes are read
back, and the other bytes of the planes are as before. -/
structure WritesBytes (video : Video) (address : Uint64)
    (pData : List Uint8) (after : Video) : Prop where
  whole : mmioWrite (mmioDevices video) address
    (BitVec.ofNat 32 pData.length) pData video = .ok (0, after)
  single : writeBytes address pData video = .ok after
  back : mmioRead (mmioDevices after) address
    (BitVec.ofNat 32 pData.length) after = .ok (0, pData, after)
  frame : ∀ plane offset,
    ¬ (planeEnabled video.vga plane ∧
        Covers (address.toNat - 0xA0000) offset pData) →
      after.vga.pVRAM plane offset = video.vga.pVRAM plane offset

/-- The read stores as many bytes as it is wide, which are those that reads of
single bytes deliver. -/
def ReadsBytes (video : Video) (address : Uint64) (width : Nat) : Prop :=
  ∃ bytes, bytes.length = width ∧
    mmioRead (mmioDevices video) address (BitVec.ofNat 32 width) video =
      .ok (0, bytes, video) ∧
    readBytes address width video = .ok (bytes, video)

/-- Accesses of the width do what those of single bytes do. -/
structure Coherent (video : Video) (address : Uint64) (width : Nat) :
    Prop where
  read : ReadsBytes video address width
  write : ∀ pData : List Uint8, pData.length = width →
    ∃ after, WritesBytes video address pData after

/-! ## Stores of single bytes -/

section Store

variable {ctx : VgaCtx} {offset : Nat} {bytes : List Uint8}

theorem stored_nil : ctx.stored offset [] = ctx := by
  have planes : storedPlanes ctx writtenPlanes offset [] = ctx.pVRAM := by
    funext plane index
    apply storedPlanes_of_spared
    intro reached
    exact Nat.not_lt.mpr reached.2.1 reached.2.2
  simp only [VgaCtx.stored]
  rw [planes]

/-- The first byte is stored on its own, and then the others behind it. -/
theorem stored_cons (byte : Uint8) (rest : List Uint8) :
    (ctx.stored offset [byte]).stored (offset + 1) rest =
      ctx.stored offset (byte :: rest) := by
  have planes :
      storedPlanes (ctx.stored offset [byte]) writtenPlanes (offset + 1)
          rest =
        storedPlanes ctx writtenPlanes offset (byte :: rest) := by
    funext plane index
    change
      (if (plane ∈ writtenPlanes ∧ planeEnabled ctx plane) ∧
          Covers (offset + 1) index rest then
        rest.getD (index - (offset + 1)) 0
      else storedPlanes ctx writtenPlanes offset [byte] plane index) = _
    simp only [storedPlanes]
    by_cases enabled : plane ∈ writtenPlanes ∧ planeEnabled ctx plane
    · simp only [enabled, true_and, Covers, List.length_cons,
        List.length_nil, and_self]
      by_cases first : index = offset
      · rw [if_neg (by omega), if_pos (by omega), if_pos (by omega), first,
          Nat.sub_self]
        rfl
      · by_cases later : offset + 1 ≤ index ∧
            index < offset + 1 + rest.length
        · have position : index - offset = index - (offset + 1) + 1 := by
            omega
          rw [if_pos later, if_pos (by omega), position]
          rfl
        · rw [if_neg later, if_neg (by omega), if_neg (by omega)]
    · rw [if_neg (fun both => enabled both.1),
        if_neg (fun both => enabled both.1),
        if_neg (fun both => enabled both.1)]
  change { ctx with pVRAM := storedPlanes _ _ _ _ } = _
  rw [planes]
  rfl

/-- `count` bytes of a plane. -/
def planeBytes (plane : Nat → Uint8) (offset count : Nat) : List Uint8 :=
  (List.range count).map fun index => plane (offset + index)

@[simp]
theorem planeBytes_length (plane : Nat → Uint8) (offset count : Nat) :
    (planeBytes plane offset count).length = count := by
  simp [planeBytes]

theorem planeBytes_one (plane : Nat → Uint8) (offset : Nat) :
    planeBytes plane offset 1 = [plane offset] :=
  rfl

theorem planeBytes_succ (plane : Nat → Uint8) (offset count : Nat) :
    planeBytes plane offset (count + 1) =
      plane offset :: planeBytes plane (offset + 1) count := by
  simp only [planeBytes, List.range_succ_eq_map, List.map_cons,
    List.map_map, Nat.add_zero]
  apply congrArg (List.cons _)
  apply List.map_congr_left
  intro index _
  exact congrArg plane (by simp only [Nat.succ_eq_add_one]; omega)

/-- What was stored is what plane 0 holds, if it is enabled. -/
theorem planeBytes_stored (enabled : planeEnabled ctx 0) :
    planeBytes ((ctx.stored offset bytes).pVRAM 0) offset bytes.length =
      bytes := by
  apply List.ext_getElem
  · exact planeBytes_length _ _ _
  · intro index _ inside
    have covered : Covers offset (offset + index) bytes :=
      ⟨by omega, by omega⟩
    simp only [planeBytes, List.getElem_map, List.getElem_range]
    change storedPlanes ctx writtenPlanes offset bytes 0 (offset + index) = _
    rw [storedPlanes_of_covered (by decide) enabled covered,
      Nat.add_sub_cancel_left, List.getD_eq_getElem _ _ inside]

end Store

/-! ## Accesses to the window -/

section Window

variable {video : Video} {address : Uint64} {pData : List Uint8}

theorem toNat_add_one (high : address.toNat < 0xC0000) :
    (address + 1).toNat = address.toNat + 1 := by
  bv_omega

/-- Writes of single bytes do what one write of them all does. -/
theorem writeBytes_eq_stored (apart : video.pci.rom.base ≠ 0xA0000)
    (low : 0xA0000 ≤ address.toNat)
    (high : address.toNat + pData.length ≤ 0xC0000) :
    writeBytes address pData video = .ok (video.stored address pData) := by
  induction pData generalizing address video with
  | nil =>
      simp only [Video.stored]
      rw [stored_nil]
      rfl
  | cons byte rest inductionHypothesis =>
      rw [List.length_cons] at high
      have next := @toNat_add_one address (by omega)
      have inside : (ScreenStep.write address [byte]).Inside := by
        refine ⟨Or.inl rfl, low, ?_⟩
        rw [List.length_singleton]
        omega
      have first : mmioWrite (mmioDevices video) address 1 [byte] video =
          .ok (0, video.stored address [byte]) :=
        mmioWrite_window apart inside
      have others := @inductionHypothesis (video.stored address [byte])
        (address + 1) apart (by omega) (by omega)
      have position : address.toNat + 1 - 0xA0000 =
          address.toNat - 0xA0000 + 1 := by
        omega
      rw [writeBytes, first]
      change writeBytes (address + 1) rest _ = _
      rw [others]
      simp only [Video.stored]
      rw [next, position]
      exact congrArg (fun vga => Except.ok { video with vga := vga })
        (stored_cons byte rest)

theorem callRead_readPlane (width : Nat) (whole : 8 * (width / 8) = width)
    (low : 0xA0000 ≤ address.toNat)
    (high : address.toNat + width / 8 ≤ 0xC0000) :
    callRead (some (readVga (readPlane width))) (width / 8) 0xA0000 address
        video =
      .ok (0, planeBytes (video.vga.pVRAM 0) (address.toNat - 0xA0000) (width / 8),
        video) := by
  have size : planeSize = 0x20000 := rfl
  have fits : address.toNat - 0xA0000 + width / 8 ≤ planeSize := by
    omega
  have back := @leBytes_leValue width
    (planeBytes (video.vga.pVRAM 0) (address.toNat - 0xA0000) (width / 8))
    (by rw [planeBytes_length]; omega)
  rw [planeBytes_length] at back
  simp only [callRead, readVga, readPlane, loadPlane,
    planeOffset_window low, Outcome.guard_of fits, Outcome.ok_bind,
    Outcome.pure_eq_ok]
  exact congrArg (fun bytes => Except.ok (0, bytes, video)) back

theorem mmioRead_eq_planeBytes (width : Nat)
    (apart : video.pci.rom.base ≠ 0xA0000)
    (narrow : width = 1 ∨ width = 2 ∨ width = 4)
    (low : 0xA0000 ≤ address.toNat)
    (high : address.toNat + width ≤ 0xC0000) :
    mmioRead (mmioDevices video) address (BitVec.ofNat 32 width) video =
      .ok (0, planeBytes (video.vga.pVRAM 0) (address.toNat - 0xA0000) width,
        video) := by
  simp only [mmioRead]
  rw [getDevice_window apart low (by omega)]
  rcases narrow with one | two | four
  · rw [one] at high ⊢
    exact callRead_readPlane 8 rfl low high
  · rw [two] at high ⊢
    exact callRead_readPlane 16 rfl low high
  · rw [four] at high ⊢
    exact callRead_readPlane 32 rfl low high

theorem readBytes_eq_planeBytes {count : Nat}
    (apart : video.pci.rom.base ≠ 0xA0000)
    (low : 0xA0000 ≤ address.toNat)
    (high : address.toNat + count ≤ 0xC0000) :
    readBytes address count video =
      .ok (planeBytes (video.vga.pVRAM 0) (address.toNat - 0xA0000) count, video) := by
  induction count generalizing address with
  | zero => rfl
  | succ count inductionHypothesis =>
      have next := @toNat_add_one address (by omega)
      have first : mmioRead (mmioDevices video) address 1 video =
          .ok (0, [video.vga.pVRAM 0 (address.toNat - 0xA0000)], video) := by
        rw [← planeBytes_one]
        exact mmioRead_eq_planeBytes 1 apart (Or.inl rfl) low (by omega)
      have others := @inductionHypothesis (address + 1) (by omega)
        (by omega)
      have position : address.toNat + 1 - 0xA0000 =
          address.toNat - 0xA0000 + 1 := by
        omega
      rw [readBytes, first, Outcome.ok_bind]
      change (readBytes _ _ _ >>= _) = _
      rw [others, next, position, planeBytes_succ]
      rfl

/-- Narrow accesses to the VGA memory. -/
theorem coherent_of_narrow {width : Nat}
    (enabled : planeEnabled video.vga 0)
    (apart : video.pci.rom.base ≠ 0xA0000)
    (narrow : width = 1 ∨ width = 2 ∨ width = 4)
    (low : 0xA0000 ≤ address.toNat)
    (high : address.toNat + width ≤ 0xC0000) :
    Coherent video address width := by
  constructor
  · exact ⟨_, planeBytes_length _ _ _,
      mmioRead_eq_planeBytes width apart narrow low high,
      readBytes_eq_planeBytes apart low high⟩
  · intro pData length
    rw [← length] at narrow high
    refine ⟨video.stored address pData, ?_, ?_, ?_, ?_⟩
    · exact mmioWrite_window apart ⟨narrow, low, high⟩
    · exact writeBytes_eq_stored apart low high
    · have read := @mmioRead_eq_planeBytes (video.stored address pData)
        address pData.length apart narrow low high
      rw [read]
      exact congrArg (fun bytes => Except.ok (0, bytes, _))
        (planeBytes_stored enabled)
    · intro plane offset spared
      exact storedPlanes_of_spared spared

/-! ## Accesses that go wrong -/

/-- The widest read stores four bytes at most, whatever device is found. -/
theorem length_of_widest_read {devices : List (MmioDevice Video)}
    {bytes : List Uint8} {next : Video} {result : Int}
    (read : mmioRead devices address 8 video = .ok (result, bytes, next)) :
    bytes.length ≤ 4 := by
  simp only [mmioRead] at read
  cases found : Kvmulate.getDevice devices address with
  | none =>
      rw [found] at read
      cases read
      exact Nat.zero_le 4
  | some dev =>
      rw [found] at read
      change callRead dev.readq 4 dev.base address video = _ at read
      cases handler : dev.readq with
      | none =>
          rw [handler] at read
          cases read
      | some readq =>
          rw [handler] at read
          rcases Outcome.bind_eq_ok_iff.mp read with ⟨_, -, built⟩
          cases built
          exact Nat.le_of_eq (leBytes_length 4 _)

theorem not_coherent_widest : ¬ Coherent video address 8 := by
  intro coherent
  rcases coherent.read with ⟨bytes, length, stored, -⟩
  have short := length_of_widest_read stored
  omega

/-- The ROM comes first in the list of devices. -/
theorem getDevice_shadowed (shadows : video.pci.rom.base = 0xA0000)
    (low : 0xA0000 ≤ address.toNat) (high : address.toNat < 0xC0000) :
    Kvmulate.getDevice (mmioDevices video) address =
      some (pcirom video.pci.rom.base) := by
  have accepted : (pcirom video.pci.rom.base).decodes address = true := by
    rw [shadows]
    exact decide_eq_true ⟨by decide, and_window low high⟩
  simp only [Kvmulate.getDevice]
  change List.find? _ [_, _] = _
  rw [List.find?_cons, accepted]

/-- A write to the ROM over the window is dropped. -/
theorem mmioWrite_shadowed (shadows : video.pci.rom.base = 0xA0000)
    (inside : (ScreenStep.write address pData).Inside) :
    mmioWrite (mmioDevices video) address (BitVec.ofNat 32 pData.length)
        pData video = .ok (0, video) := by
  rcases inside with ⟨widths, low, high⟩
  have free : video.pci.rom.base ≠ 0xC0000 := by
    rw [shadows]
    decide
  simp only [mmioWrite]
  rw [getDevice_shadowed shadows low (by omega)]
  rcases widths with one | two | four
  · rw [one]
    exact callWrite_vgaromBiosWrite 8 free
  · rw [two]
    exact callWrite_vgaromBiosWrite 16 free
  · rw [four]
    exact callWrite_vgaromBiosWrite 32 free

/-- Two different contents cannot both be read back from the ROM. -/
theorem not_coherent_shadowed {width : Nat}
    (shadows : video.pci.rom.base = 0xA0000)
    (narrow : width = 1 ∨ width = 2 ∨ width = 4)
    (low : 0xA0000 ≤ address.toNat)
    (high : address.toNat + width ≤ 0xC0000) :
    ¬ Coherent video address width := by
  intro coherent
  have back : ∀ byte : Uint8,
      mmioRead (mmioDevices video) address (BitVec.ofNat 32 width) video =
        .ok (0, List.replicate width byte, video) := by
    intro byte
    have length : (List.replicate width byte).length = width :=
      List.length_replicate
    rcases coherent.write _ length with ⟨after, writes⟩
    have inside : (ScreenStep.write address
        (List.replicate width byte)).Inside := by
      rw [← length] at narrow high
      exact ⟨narrow, low, high⟩
    have dropped := writes.whole
    rw [mmioWrite_shadowed shadows inside] at dropped
    cases dropped
    have read := writes.back
    rw [length] at read
    exact read
  have same := Except.ok.inj ((back 0).symm.trans (back 1))
  have bytes : List.replicate width (0 : Uint8) =
      List.replicate width 1 :=
    congrArg (fun read => read.2.1) same
  have positive : width ≠ 0 := by omega
  rw [List.replicate_right_inj positive] at bytes
  exact absurd bytes (by decide)

/-- In every state with plane 0 enabled, an access inside the window does what
its bytes do exactly if it is not eight bytes wide and the guest has not put
the expansion ROM over the window. -/
theorem coherent_iff {width : Nat} (enabled : planeEnabled video.vga 0)
    (natural : width = 1 ∨ width = 2 ∨ width = 4 ∨ width = 8)
    (low : 0xA0000 ≤ address.toNat)
    (high : address.toNat + width ≤ 0xC0000) :
    Coherent video address width ↔
      width ≠ 8 ∧ video.pci.rom.base ≠ 0xA0000 := by
  constructor
  · intro coherent
    have narrow : width ≠ 8 := by
      intro widest
      rw [widest] at coherent
      exact not_coherent_widest coherent
    refine ⟨narrow, ?_⟩
    intro shadows
    exact not_coherent_shadowed shadows (by omega) low high coherent
  · intro condition
    have narrow := condition.1
    exact coherent_of_narrow enabled condition.2 (by omega) low high

end Window

/-- All planes are cleared and enabled. -/
def Video.enabled (pci : PciSystem) : Video where
  pci := pci
  rom := ⟨none, none⟩
  vga :=
    { VgaCtx.zeroed (fun _ _ => 0) with
      seqReg := Vector.replicate 5 0xF }

theorem planeEnabled_enabled (pci : PciSystem) :
    planeEnabled (Video.enabled pci).vga 0 := by
  change (Vector.replicate 5 (0xF : Uint8)).get 2 &&& _ ≠ 0
  decide

theorem coherent_iff_dword :
    ∃ pci, devicesRegisterAll = .ok pci ∧
      (Coherent (Video.enabled pci) 0xB8000 4 ↔
        4 ≠ 8 ∧ (Video.enabled pci).pci.rom.base ≠ 0xA0000) := by
  rcases exists_devicesRegisterAll with ⟨pci, registered, -⟩
  exact ⟨pci, registered,
    coherent_iff (planeEnabled_enabled pci) (by decide) (by decide)
      (by decide)⟩

/-- Eight bytes at the start of the window. -/
theorem not_always_coherent :
    ∃ pci, devicesRegisterAll = .ok pci ∧
      planeEnabled (Video.enabled pci).vga 0 ∧
        ¬ Coherent (Video.enabled pci) 0xA0000 8 := by
  rcases exists_devicesRegisterAll with ⟨pci, registered, -⟩
  exact ⟨pci, registered, planeEnabled_enabled pci, not_coherent_widest⟩

end Kvmulate.Vga
