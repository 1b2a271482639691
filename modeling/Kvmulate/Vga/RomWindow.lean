import Kvmulate.Vga.RomTracks

/-!
# What the expansion ROM register decodes

When the ROM is dispatched to at the addresses that its register enables, and
only there.
-/

namespace Kvmulate.Vga

open DeviceLib Kvmulate.Io Kvmulate.Pci

/-! ## The law -/

/-- Select the register through CONFIG_ADDRESS and read it. -/
def readExprom (sys : PciSystem) : Outcome Uint32 := do
  let selected ← ioOutl pciTable 0xCF8 0x80000030 sys
  let (val, _) ← ioInl pciTable 0xCFC selected
  pure val

/-- The register shows the base and the enable bit of `val`, and the ROM is
dispatched to at the addresses of the window that `val` enables. -/
def DecodesAs (sys : PciSystem) (val : Uint32) : Prop :=
  readExprom sys = .ok (val &&& 0xFFFE0001) ∧
    ∀ (rom : RomData) (vga : VgaCtx) (address : Uint32),
      Kvmulate.getDevice (mmioDevices ⟨sys, rom, vga⟩)
            (address.setWidth 64) =
          some (pcirom sys.rom.base) ↔
        val &&& 1 ≠ 0 ∧ address &&& 0xFFFE0000 = val &&& 0xFFFE0000

section Law

variable {sys : PciSystem} {writes : List Uint32}

/-- The system after the register was selected. -/
def selectExprom (sys : PciSystem) : PciSystem :=
  { sys with bus := { sys.bus with state := latch 0x80000030 } }

theorem RomTracks.readExprom (tracks : RomTracks sys writes) :
    readExprom sys = .ok (expromValue writes) := by
  have latched : RomTracks (selectExprom sys) writes :=
    tracks.setBus rfl rfl
  have selected :
      ioOutl pciTable 0xCF8 0x80000030 sys = .ok (selectExprom sys) := rfl
  have called :
      ioInl pciTable 0xCFC (selectExprom sys) =
        (selectExprom sys).finishRead
          (pciInl (selectExprom sys).bus 4) (selectExprom sys).readl := rfl
  have reply :
      pciInl (selectExprom sys).bus 4 =
        .ok (.call .vga cfgRegExprom) := by
    rw [pciInl, if_neg (by decide), if_pos (by decide),
      PciBus.callDevice, latched.vga_found rfl]
    rfl
  have loaded :
      (selectExprom sys).readl .vga cfgRegExprom =
        .ok (expromValue writes) := latched.exprom
  unfold Vga.readExprom
  rw [selected, Outcome.ok_bind, called, reply]
  simp only [PciSystem.finishRead, Outcome.ok_bind, loaded,
    Outcome.pure_eq_ok]

/-- The window of the ROM comes first among the devices. -/
theorem getDevice_eq_pcirom_iff {video : Video} {address : Uint32} :
    Kvmulate.getDevice (mmioDevices video) (address.setWidth 64) =
        some (pcirom video.pci.rom.base) ↔
      video.pci.rom.base ≠ 0 ∧
        address &&& 0xFFFE0000 = video.pci.rom.base := by
  have widened :
      (address.setWidth 64 : Uint64) &&&
            (pcirom video.pci.rom.base).mask.setWidth 64 =
          (pcirom video.pci.rom.base).base.setWidth 64 ↔
        address &&& 0xFFFE0000 = video.pci.rom.base := by
    change (address.setWidth 64 : Uint64) &&&
        (0xFFFE0000 : Uint32).setWidth 64 =
      video.pci.rom.base.setWidth 64 ↔ _
    rw [← BitVec.setWidth_and]
    constructor
    · intro wide
      have cut := congrArg (BitVec.setWidth 32) wide
      rwa [BitVec.setWidth_setWidth_of_le _ (by decide),
        BitVec.setWidth_setWidth_of_le _ (by decide),
        BitVec.setWidth_eq, BitVec.setWidth_eq] at cut
    · intro narrow
      rw [narrow]
  have decodes :
      (pcirom video.pci.rom.base).decodes (address.setWidth 64) = true ↔
        video.pci.rom.base ≠ 0 ∧
          address &&& 0xFFFE0000 = video.pci.rom.base := by
    rw [MmioDevice.decodes, decide_eq_true_eq, widened]
    rfl
  have list : mmioDevices video =
      [pcirom video.pci.rom.base, gfxramOfVideo] := rfl
  rw [← decodes, Kvmulate.getDevice, list, List.find?_cons]
  cases (pcirom video.pci.rom.base).decodes (address.setWidth 64) with
  | true => exact iff_of_true rfl rfl
  | false =>
    refine iff_of_false (fun found => ?_) Bool.false_ne_true
    have ram := List.mem_of_find?_eq_some found
    have same := List.mem_singleton.mp ram
    have readq := congrArg (fun dev => dev.readq.isSome) same
    cases readq

end Law

/-! ## Words and windows -/

section Words

variable {val base : Uint32}

theorem eq_and_iff (mask : Uint32) :
    val = val &&& mask ↔ val &&& ~~~mask = 0 := by
  have parts := toNat_and_add_and_not val mask
  rw [← BitVec.toNat_inj, ← BitVec.toNat_inj]
  change _ ↔ (val &&& ~~~mask).toNat = 0
  omega

/-- Without the bits between, the two masks cut the same base out. -/
theorem and_not_one_of_aligned (aligned : val &&& 0x1FFFE = 0) :
    val &&& ~~~1 = val &&& 0xFFFE0000 := by
  have split : (~~~1 : Uint32) = 0x1FFFE ||| 0xFFFE0000 := by decide
  rw [split, BitVec.and_or_distrib_left, aligned]
  exact BitVec.zero_or

theorem eq_of_and_not_one {other : Uint32} (odd : val &&& 1 ≠ 0)
    (same : val &&& ~~~1 = other) : val.toNat = other.toNat + 1 := by
  rw [← same]
  exact toNat_of_odd odd

/-- A base that the window could have is decoded unless it is 0 or off its
alignment. -/
theorem window_agrees_iff :
    (∀ address : Uint32,
      base ≠ 0 ∧ address &&& 0xFFFE0000 = base ↔
        val &&& 1 ≠ 0 ∧ address &&& 0xFFFE0000 = val &&& 0xFFFE0000) ↔
      if val &&& 1 ≠ 0 then base ≠ 0 ∧ val &&& 0xFFFE0000 = base
      else base = 0 ∨ base &&& 0xFFFE0000 ≠ base := by
  by_cases odd : val &&& 1 ≠ 0
  · rw [if_pos odd]
    constructor
    · intro agrees
      exact (agrees val).mpr ⟨odd, rfl⟩
    · intro both address
      rcases both with ⟨used, rfl⟩
      exact and_congr_left fun _ => iff_of_true used odd
  · rw [if_neg odd]
    constructor
    · intro agrees
      by_contra neither
      obtain ⟨used, aligned⟩ := not_or.mp neither
      exact odd ((agrees base).mp ⟨used, not_not.mp aligned⟩).1
    · intro unused address
      refine iff_of_false ?_ (fun both => odd both.1)
      intro both
      rcases both with ⟨used, rfl⟩
      rcases unused with zero | off
      · exact used zero
      · apply off
        rw [BitVec.and_assoc, BitVec.and_self]

/-- A window that a write moved is unused exactly if the write said so. -/
theorem unused_iff (odd : val &&& 1 ≠ 0) :
    val &&& ~~~1 = 0 ∨ val &&& ~~~1 &&& 0xFFFE0000 ≠ val &&& ~~~1 ↔
      val = 1 ∨ val &&& 0x1FFFE ≠ 0 := by
  have zero : val &&& ~~~1 = 0 ↔ val = 1 := by
    have split := toNat_of_odd odd
    rw [← BitVec.toNat_inj, ← BitVec.toNat_inj]
    change (val &&& ~~~1).toNat = 0 ↔ val.toNat = 1
    omega
  have aligned :
      val &&& ~~~1 &&& 0xFFFE0000 = val &&& ~~~1 ↔
        val &&& 0x1FFFE = 0 := by
    rw [eq_comm, eq_and_iff, BitVec.and_assoc]
    rfl
  rw [zero, ne_eq, aligned]

end Words

/-! ## When the law holds -/

/-- The last write has no bits but those that the register keeps.  If it
enables the ROM, its base is neither 0 nor 0xC0000.  If it disables the ROM,
the last write that moved the window moved it to where nothing is decoded. -/
def Decodable (writes : List Uint32) : Prop :=
  ∃ val, writes.getLast? = some val ∧
    (val = 0xFFFFF800 ∨ val &&& 0x1FFFE = 0) ∧
      if val &&& 1 ≠ 0 then
        val &&& 0xFFFE0000 ≠ 0 ∧ val &&& 0xFFFE0000 ≠ 0xC0000
      else
        ∃ moved, (writes.filter Enables).getLast? = some moved ∧
          (moved = 1 ∨ moved &&& 0x1FFFE ≠ 0)

theorem enables_iff {val : Uint32} :
    Enables val = true ↔ val &&& 1 ≠ 0 ∧ val ≠ 0xC0001 := by
  rw [Enables, decide_eq_true_eq]

/-- No write moves the window to 0xC0000. -/
theorem windowBase_ne (writes : List Uint32) :
    windowBase writes ≠ 0xC0000 := by
  unfold windowBase
  cases last : (writes.filter Enables).getLast? with
  | none => decide
  | some moved =>
      intro same
      have member := List.mem_of_getLast? last
      obtain ⟨odd, free⟩ := enables_iff.mp (List.mem_filter.mp member).2
      exact free (BitVec.eq_of_toNat_eq (eq_of_and_not_one odd same))

theorem decodesAs_iff_state {sys : PciSystem} {writes : List Uint32}
    (tracks : RomTracks sys writes) (val : Uint32) :
    DecodesAs sys val ↔
      expromValue writes = val &&& 0xFFFE0001 ∧
        if val &&& 1 ≠ 0 then
          windowBase writes ≠ 0 ∧ val &&& 0xFFFE0000 = windowBase writes
        else
          windowBase writes = 0 ∨
            windowBase writes &&& 0xFFFE0000 ≠ windowBase writes := by
  unfold DecodesAs
  rw [tracks.readExprom, Except.ok.injEq, ← window_agrees_iff,
    ← tracks.base]
  refine and_congr_right fun _ => ?_
  constructor
  · intro agrees address
    exact getDevice_eq_pcirom_iff.symm.trans
      (agrees ⟨none, none⟩ (VgaCtx.zeroed fun _ _ => 0) address)
  · intro agrees rom vga address
    exact getDevice_eq_pcirom_iff.trans (agrees address)

/-- The register shows what was written if only the base and the enable bit
were. -/
theorem expromValue_eq_iff {writes : List Uint32} {val : Uint32}
    (last : writes.getLast? = some val) :
    expromValue writes = val &&& 0xFFFE0001 ↔
      val = 0xFFFFF800 ∨ val &&& 0x1FFFE = 0 := by
  unfold expromValue
  rw [last]
  by_cases sizing : val = 0xFFFFF800
  · simp only [if_pos sizing]
    exact iff_of_true (by rw [sizing]; decide) (Or.inl sizing)
  · simp only [if_neg sizing]
    rw [eq_and_iff]
    exact (or_iff_right sizing).symm

/-- A write that enables the ROM moves the window to its base. -/
theorem enabled_iff {writes : List Uint32} {val : Uint32}
    (last : writes.getLast? = some val) (odd : val &&& 1 ≠ 0)
    (aligned : val &&& 0x1FFFE = 0) :
    windowBase writes ≠ 0 ∧ val &&& 0xFFFE0000 = windowBase writes ↔
      val &&& 0xFFFE0000 ≠ 0 ∧ val &&& 0xFFFE0000 ≠ 0xC0000 := by
  have cut := and_not_one_of_aligned aligned
  obtain ⟨before, rfl⟩ := List.getLast?_eq_some_iff.mp last
  constructor
  · intro both
    rcases both with ⟨used, same⟩
    rw [same]
    exact ⟨used, windowBase_ne _⟩
  · intro both
    rcases both with ⟨used, free⟩
    have enables : Enables val = true := by
      rw [enables_iff]
      refine ⟨odd, ?_⟩
      intro same
      rcases same with rfl
      exact free (by decide)
    rw [windowBase_append, if_pos enables, cut]
    exact ⟨used, rfl⟩

/-- A write that disables the ROM leaves the window where it was. -/
theorem disabled_iff {writes : List Uint32} :
    windowBase writes = 0 ∨
        windowBase writes &&& 0xFFFE0000 ≠ windowBase writes ↔
      ∃ moved, (writes.filter Enables).getLast? = some moved ∧
        (moved = 1 ∨ moved &&& 0x1FFFE ≠ 0) := by
  unfold windowBase
  cases last : (writes.filter Enables).getLast? with
  | none =>
      refine iff_of_false (by decide) ?_
      intro unused
      rcases unused with ⟨moved, none, -⟩
      cases none
  | some moved =>
      have member := List.mem_of_getLast? last
      have odd := (enables_iff.mp (List.mem_filter.mp member).2).1
      refine (unused_iff odd).trans ?_
      constructor
      · intro unused
        exact ⟨moved, rfl, unused⟩
      · intro found
        rcases found with ⟨_, same, unused⟩
        cases same
        exact unused

theorem RomTracks.decodesAs_iff {sys : PciSystem} {writes : List Uint32}
    (tracks : RomTracks sys writes) :
    DecodesAs sys (writes.getLast?.getD 0) ↔ Decodable writes := by
  rw [decodesAs_iff_state tracks]
  unfold Decodable
  cases last : writes.getLast? with
  | none =>
      refine iff_of_false ?_ ?_
      · intro law
        rcases law with ⟨shown, -⟩
        unfold expromValue at shown
        rw [last] at shown
        exact absurd shown (by decide)
      · intro found
        rcases found with ⟨val, none, -⟩
        cases none
  | some val =>
      rw [Option.getD_some, expromValue_eq_iff last, disabled_iff]
      constructor
      · intro shownAll
        rcases shownAll with ⟨shown, window⟩
        refine ⟨val, rfl, shown, ?_⟩
        by_cases odd : val &&& 1 ≠ 0
        · rw [if_pos odd] at window ⊢
          have aligned : val &&& 0x1FFFE = 0 := by
            refine shown.resolve_left ?_
            intro same
            rcases same with rfl
            exact odd (by decide)
          exact (enabled_iff last odd aligned).mp window
        · rw [if_neg odd] at window ⊢
          exact window
      · intro found
        rcases found with ⟨_, same, shown, window⟩
        cases same
        refine ⟨shown, ?_⟩
        by_cases odd : val &&& 1 ≠ 0
        · rw [if_pos odd] at window ⊢
          have aligned : val &&& 0x1FFFE = 0 := by
            refine shown.resolve_left ?_
            intro same
            rcases same with rfl
            exact odd (by decide)
          exact (enabled_iff last odd aligned).mpr window
        · rw [if_neg odd] at window ⊢
          exact window

/-- After every run of port accesses, the expansion ROM decodes what its
register was last written with exactly if the writes are decodable. -/
theorem exprom_decodes_iff {start final : PciSystem}
    {accesses : List IoAccess} {responses : List IoData}
    {writes : List Uint32} (started : devicesRegisterAll = .ok start)
    (ran : run (observed (ioAccess pciTable) recordExprom) (start, [])
      accesses = .ok (responses, (final, writes))) :
    DecodesAs final (writes.getLast?.getD 0) ↔ Decodable writes := by
  obtain ⟨first, same, tracks⟩ := romTracks_start
  rw [started] at same
  cases same
  exact (romTracks_of_run tracks ran).decodesAs_iff

/-- Enable the ROM at 0xFFFC0000. -/
def enabling : List IoAccess :=
  [.outl 0xCF8 0x80000030, .outl 0xCFC 0xFFFC0001]

theorem exprom_decodes_iff_enabling :
    ∃ start final responses,
      devicesRegisterAll = .ok start ∧
        run (observed (ioAccess pciTable) recordExprom) (start, [])
            enabling = .ok (responses, (final, [0xFFFC0001])) ∧
          DecodesAs final 0xFFFC0001 := by
  have seen :
      (devicesRegisterAll >>= fun start =>
        (run (observed (ioAccess pciTable) recordExprom) (start, [])
          enabling).map fun ran => ran.2.2) = .ok [0xFFFC0001] := by
    decide +kernel
  obtain ⟨start, started, ended⟩ := Outcome.bind_eq_ok_iff.mp seen
  obtain ⟨⟨responses, final, writes⟩, ran, rfl⟩ :=
    Outcome.map_eq_ok_iff.mp ended
  refine ⟨start, final, responses, started, ran, ?_⟩
  refine (exprom_decodes_iff started ran).mpr
    ⟨0xFFFC0001, rfl, Or.inr (by decide), ?_⟩
  decide

/-- Disable the ROM again. -/
def disabling : List IoAccess := enabling ++ [.outl 0xCFC 0xFFFC0000]

/-- A ROM that was disabled is still decoded. -/
theorem exprom_decoded_after_disabling :
    ∃ start final responses,
      devicesRegisterAll = .ok start ∧
        run (observed (ioAccess pciTable) recordExprom) (start, [])
            disabling =
          .ok (responses, (final, [0xFFFC0001, 0xFFFC0000])) ∧
          ¬ DecodesAs final 0xFFFC0000 := by
  have seen :
      (devicesRegisterAll >>= fun start =>
        (run (observed (ioAccess pciTable) recordExprom) (start, [])
          disabling).map fun ran => ran.2.2) =
        .ok [0xFFFC0001, 0xFFFC0000] := by
    decide +kernel
  obtain ⟨start, started, ended⟩ := Outcome.bind_eq_ok_iff.mp seen
  obtain ⟨first, same, tracks⟩ := romTracks_start
  rw [started] at same
  cases same
  obtain ⟨⟨responses, final, writes⟩, ran, written⟩ :=
    Outcome.map_eq_ok_iff.mp ended
  cases written
  refine ⟨start, final, responses, started, ran, fun decodes => ?_⟩
  obtain ⟨val, last, -, window⟩ :=
    (romTracks_of_run tracks ran).decodesAs_iff.mp decodes
  cases last
  obtain ⟨moved, found, off⟩ := window
  cases found
  exact absurd off (by decide)

end Kvmulate.Vga
