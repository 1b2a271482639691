import Kvmulate.Devices.PortFaults
import Kvmulate.Vga.Faults

/-!
# Every memory fault that a guest can provoke

The accesses that touch memory outside every object, for all devices of the
machine.  A run from the start faults exactly where it reaches one of them.
-/

namespace Kvmulate.Devices

open DeviceLib Kvmulate.Io

/-! ## The handlers that use no index -/

section Quiet

variable {host : Host}

theorem quiet_cmos (state : CmosSystem) :
    (cmosHandler host).Quiet state where
  inb := by
    rintro read ⟨⟩ address
    exact Outcome.defined_bind (Cmos.defined_cmosInb _ _)
      fun _ _ => Outcome.defined_ok
  inw := nofun
  inl := nofun
  outb := by
    rintro out ⟨⟩ address val
    exact Outcome.defined_bind (Cmos.defined_cmosOutb val)
      fun _ _ => Outcome.defined_ok
  outw := nofun
  outl := nofun

theorem quiet_ps2Pos (state : A20En) : ps2PosHandler.Quiet state where
  inb := by
    rintro read ⟨⟩ address
    exact Outcome.defined_ite (fun _ => Outcome.defined_ok)
      fun _ => Outcome.defined_abort
  inw := nofun
  inl := nofun
  outb := by
    rintro out ⟨⟩ address val
    exact Outcome.defined_ite (fun _ => Outcome.defined_ok)
      fun _ => Outcome.defined_abort
  outw := nofun
  outl := nofun

/-- An entry point that is there answers or refuses. -/
def PlainIn {width : Nat}
    (entry : Option (Uint16 → Unit → Outcome (BitVec width × Unit))) :
    Prop :=
  entry = none ∨ entry = some refuseIn ∨ entry = some zeroIn

def PlainOut {width : Nat}
    (entry : Option (Uint16 → BitVec width → Unit → Outcome Unit)) : Prop :=
  entry = none ∨ entry = some refuseOut ∨ entry = some ignoreOut

theorem PlainIn.defined {width : Nat}
    {entry : Option (Uint16 → Unit → Outcome (BitVec width × Unit))}
    (plain : PlainIn entry) :
    ∀ read, entry = some read → ∀ address, (read address ()).Defined := by
  rintro read rfl address
  rcases plain with nothing | refuses | answers
  · cases nothing
  · cases refuses
    exact Outcome.defined_abort
  · cases answers
    exact Outcome.defined_ok

theorem PlainOut.defined {width : Nat}
    {entry : Option (Uint16 → BitVec width → Unit → Outcome Unit)}
    (plain : PlainOut entry) :
    ∀ out, entry = some out →
      ∀ address val, (out address val ()).Defined := by
  rintro out rfl address val
  rcases plain with nothing | refuses | ignores
  · cases nothing
  · cases refuses
    exact Outcome.defined_abort
  · cases ignores
    exact Outcome.defined_ok

/-- The handlers without a state. -/
theorem quiet_stateless {handler : IoHandler Unit}
    (mem : handler ∈ [biosdebugHandler, vgadbgHandler, vbeHandler] ++
      parportHandlers ++ serportHandlers) : handler.Quiet () := by
  have plain : PlainIn handler.inb ∧ PlainIn handler.inw ∧
      PlainIn handler.inl ∧ PlainOut handler.outb ∧
      PlainOut handler.outw ∧ PlainOut handler.outl := by
    simp only [parportHandlers, serportHandlers, List.cons_append,
      List.nil_append, List.mem_cons, List.not_mem_nil, or_false] at mem
    rcases mem with rfl | rfl | rfl | rfl | rfl | rfl | rfl | rfl | rfl
    all_goals
      refine ⟨?_, ?_, ?_, ?_, ?_, ?_⟩ <;>
        first
          | exact .inl rfl
          | exact .inr (.inl rfl)
          | exact .inr (.inr rfl)
  obtain ⟨inb, inw, inl, outb, outw, outl⟩ := plain
  exact ⟨inb.defined, inw.defined, inl.defined, outb.defined,
    outw.defined, outl.defined⟩

theorem quiet_para {ctx : Qemu.Ctx} (low : 0 ≤ ctx.off) :
    qemuparaHandler.Quiet ctx where
  inb := by
    rintro read ⟨⟩ address
    exact Qemu.defined_qemuparaInb low
  inw := by
    rintro read ⟨⟩ address
    exact Outcome.defined_abort
  inl := by
    rintro read ⟨⟩ address
    exact Outcome.defined_abort
  outb := by
    rintro out ⟨⟩ address val
    exact Outcome.defined_abort
  outw := by
    rintro out ⟨⟩ address val
    exact Qemu.defined_qemuparaOutw address
  outl := by
    rintro out ⟨⟩ address val
    exact Outcome.defined_abort

theorem quiet_kbd {regs : Keyboard.KbdRegs}
    (invariant : Keyboard.Invariant regs) : kbdHandler.Quiet regs where
  inb := by
    rintro read ⟨⟩ address
    exact Keyboard.defined_kbdInb invariant.1 _
  inw := by
    rintro read ⟨⟩ address
    exact Outcome.defined_abort
  inl := by
    rintro read ⟨⟩ address
    exact Outcome.defined_abort
  outb := by
    rintro out ⟨⟩ address val
    exact Keyboard.defined_kbdOutb invariant.2 _ val
  outw := by
    rintro out ⟨⟩ address val
    exact Outcome.defined_abort
  outl := by
    rintro out ⟨⟩ address val
    exact Outcome.defined_abort

end Quiet

/-! ## The accesses that overrun -/

/-- A read through a pointer that its handler leaves `NULL`. -/
def NullReads (host : Host) (access : IoAccess) : Prop :=
  ∃ handler, lookupDevice host access.port = some handler ∧
    handler.NullRead access

/-- The last register of a DMA controller, or a write to the last page
port. -/
def DmaOverruns : IoAccess → Prop
  | .outb port val => ¬ I8237.HasPlace (.outb port val)
  | .inb port => ¬ I8237.HasPlace (.inb port)
  | _ => False

/-- The data port of the DAC, behind the last byte of the palette. -/
def PaletteOverruns (vga : Vga.VgaCtx) : IoAccess → Prop
  | .outb port _ => port = 0x3C9 ∧ 768 ≤ vga.pelWriteAddr.toNat
  | .inb port => port = 0x3C9 ∧ 768 ≤ vga.pelReadAddr.toNat
  | _ => False

/-- The FIFO of the floppy controller, when it is full or completes a READ DATA
that faults. -/
def FifoOverruns (sys : Floppy.FloppySystem) : IoAccess → Prop
  | .outb port val => port = 0x3F5 ∧
      (Floppy.FifoFull sys.fdc ∨ Floppy.CommandFaults sys val)
  | .inb port => port = 0x3F5 ∧ Floppy.FifoFull sys.fdc
  | _ => False

/-- The Data register of the disk controller, behind its buffer. -/
def DataOverruns (cont : Ata.AtaController) : IoAccess → Prop
  | .outw port _ => port = 0x1F0 ∧
      ¬ Ata.insideBuffer cont.currDev.writeBuffer
        cont.currDev.writeBufferOffset
  | .inw port => port = 0x1F0 ∧
      ¬ Ata.insideBuffer cont.currDev.readBuffer
        cont.currDev.readBufferOffset
  | _ => False

def PortOverruns (host : Host) (machine : Machine) (access : IoAccess) :
    Prop :=
  NullReads host access ∨ DmaOverruns access ∨
    PaletteOverruns machine.video.vga access ∨
    FifoOverruns (floppyPart.get machine) access ∨
    DataOverruns machine.ata access

section Ports

variable {host : Host} {machine : Machine} {access : IoAccess}
variable {index : Nat}

theorem servedByDma_last {port : Uint16}
    (last : I8237.LastRegister port) : ServedByDma port := by
  rcases last with rfl | rfl | rfl <;> decide

theorem DmaOverruns.served (overruns : DmaOverruns access) :
    ServedByDma access.port := by
  cases access with
  | outb port val =>
      by_cases last : I8237.LastRegister port
      · exact servedByDma_last last
      · have page : port = 0x8F := by
          by_contra other
          exact overruns ⟨last, other⟩
        rw [show (IoAccess.outb port val).port = 0x8F from page]
        decide
  | inb port => exact servedByDma_last (not_not.mp overruns)
  | outw => cases overruns
  | outl => cases overruns
  | inw => cases overruns
  | inl => cases overruns

theorem PaletteOverruns.served {vga : Vga.VgaCtx}
    (overruns : PaletteOverruns vga access) :
    servedBy access.port = some 15 := by
  have data : access.port = 0x3C9 := by
    cases access with
    | outb => exact overruns.1
    | inb => exact overruns.1
    | outw => cases overruns
    | outl => cases overruns
    | inw => cases overruns
    | inl => cases overruns
  rw [data]
  decide

theorem FifoOverruns.served {sys : Floppy.FloppySystem}
    (overruns : FifoOverruns sys access) :
    servedBy access.port = some 19 := by
  have data : access.port = 0x3F5 := by
    cases access with
    | outb => exact overruns.1
    | inb => exact overruns.1
    | outw => cases overruns
    | outl => cases overruns
    | inw => cases overruns
    | inl => cases overruns
  rw [data]
  decide

theorem DataOverruns.served {cont : Ata.AtaController}
    (overruns : DataOverruns cont access) :
    servedBy access.port = some 20 := by
  have data : access.port = 0x1F0 := by
    cases access with
    | outw => exact overruns.1
    | inw => exact overruns.1
    | outb => cases overruns
    | outl => cases overruns
    | inb => cases overruns
    | inl => cases overruns
  rw [data]
  decide

/-- The handler that is found decides about a `NULL` read. -/
theorem nullReads_iff {τ : Type} {part : Part Machine τ}
    {handler : IoHandler τ} (served : servedBy access.port = some index)
    (placed : (registeredHandlers host)[index]? =
      some (handler.onPart part)) :
    NullReads host access ↔ handler.NullRead access := by
  have found := @lookupDevice_of_servedBy host _ _ served
  rw [placed] at found
  unfold NullReads
  rw [found]
  constructor
  · rintro ⟨other, same, reads⟩
    cases same
    exact nullRead_onPart.mp reads
  · intro reads
    exact ⟨_, rfl, nullRead_onPart.mpr reads⟩

/-- The device faults in the machine as its handler does. -/
theorem faultsIff_portAccess_onPart {τ : Type} {part : Part Machine τ}
    {handler : IoHandler τ} (served : servedBy access.port = some index)
    (placed : (registeredHandlers host)[index]? =
      some (handler.onPart part)) :
    FaultsIff (portAccess host machine access)
      (handler.EntryFaults (part.get machine) access) := by
  rw [portAccess_onPart served placed]
  exact Iff.trans Outcome.bind_ok_eq_error_iff faultsIff_serve

/-- A port has one handler. -/
theorem not_served_of_served {other : Nat}
    (served : servedBy access.port = some index) (apart : other ≠ index) :
    servedBy access.port ≠ some other := by
  intro own
  cases served.symm.trans own
  exact apart rfl

theorem not_servedByDma (served : servedBy access.port = some index)
    (apart : index ∉ [3, 4, 5]) : ¬ ServedByDma access.port := by
  intro window
  obtain ⟨hdl, own⟩ := exists_dmaIndex window
  cases served.symm.trans own
  cases hdl <;> exact apart (by decide)

/-- At the ports of the other handlers, only a `NULL` read overruns. -/
theorem portOverruns_iff_of_apart
    (served : servedBy access.port = some index)
    (apart : index ∉ [3, 4, 5, 15, 19, 20]) :
    PortOverruns host machine access ↔ NullReads host access := by
  have away {other : Nat} (mem : other ∈ [3, 4, 5, 15, 19, 20]) :
      servedBy access.port ≠ some other :=
    not_served_of_served served (by rintro rfl; exact apart mem)
  refine or_iff_left ?_
  rintro (dma | palette | fifo | data)
  · rcases dma.served with first | second | page
    · exact away (by decide) first
    · exact away (by decide) second
    · exact away (by decide) page
  · exact away (by decide) palette.served
  · exact away (by decide) fifo.served
  · exact away (by decide) data.served

theorem portOverruns_iff_of_dma (window : ServedByDma access.port) :
    PortOverruns host machine access ↔
      NullReads host access ∨ DmaOverruns access := by
  refine or_congr_right (or_iff_left ?_)
  rintro (palette | fifo | data)
  · exact not_servedByDma palette.served (by decide) window
  · exact not_servedByDma fifo.served (by decide) window
  · exact not_servedByDma data.served (by decide) window

theorem portOverruns_iff_of_vga
    (served : servedBy access.port = some index)
    (own : index = 15 ∨ index = 16) :
    PortOverruns host machine access ↔
      NullReads host access ∨
        PaletteOverruns machine.video.vga access := by
  refine or_congr_right ((or_iff_right ?_).trans (or_iff_left ?_))
  · intro dma
    refine not_servedByDma served ?_ dma.served
    rcases own with rfl | rfl <;> decide
  · rintro (fifo | data)
    · refine not_served_of_served served ?_ fifo.served
      rcases own with rfl | rfl <;> decide
    · refine not_served_of_served served ?_ data.served
      rcases own with rfl | rfl <;> decide

theorem portOverruns_iff_of_floppy
    (served : servedBy access.port = some 19) :
    PortOverruns host machine access ↔
      NullReads host access ∨
        FifoOverruns (floppyPart.get machine) access := by
  refine or_congr_right ((or_iff_right ?_).trans
    ((or_iff_right ?_).trans (or_iff_left ?_)))
  · exact fun dma => not_servedByDma served (by decide) dma.served
  · exact fun palette =>
      not_served_of_served served (by decide) palette.served
  · exact fun data => not_served_of_served served (by decide) data.served

theorem portOverruns_iff_of_ata
    (served : servedBy access.port = some 20) :
    PortOverruns host machine access ↔
      NullReads host access ∨ DataOverruns machine.ata access := by
  refine or_congr_right ((or_iff_right ?_).trans
    ((or_iff_right ?_).trans (or_iff_right ?_)))
  · exact fun dma => not_servedByDma served (by decide) dma.served
  · exact fun palette =>
      not_served_of_served served (by decide) palette.served
  · exact fun fifo => not_served_of_served served (by decide) fifo.served

theorem faultsIff_of_quiet {τ : Type} {part : Part Machine τ}
    {handler : IoHandler τ} (served : servedBy access.port = some index)
    (placed : (registeredHandlers host)[index]? =
      some (handler.onPart part))
    (apart : index ∉ [3, 4, 5, 15, 19, 20])
    (quiet : handler.Quiet (part.get machine)) :
    FaultsIff (portAccess host machine access)
      (PortOverruns host machine access) := by
  rw [portOverruns_iff_of_apart served apart, nullReads_iff served placed]
  exact (faultsIff_portAccess_onPart served placed).congr
    quiet.entryFaults_iff

/-- The bus reaches only registers in range. -/
theorem faultsIff_pci (served : servedBy access.port = some 6) :
    FaultsIff (portAccess host machine access)
      (PortOverruns host machine access) := by
  obtain ⟨inside, decoded, -⟩ := List.findIdx?_eq_some_iff_getElem.mp served
  have window : access.port &&& ~~~7 = 0xCF8 := of_decide_eq_true decoded
  have short := toNat_sub_le_of_decoded window
  have small : access.port - Pci.pciHandler.base =
      (BitVec.ofNat 3 (access.port - 0xCF8).toNat).setWidth 16 := by
    refine BitVec.eq_of_toNat_eq ?_
    have seven : (~~~(~~~7 : Uint16)).toNat = 7 := by decide
    rw [BitVec.toNat_setWidth, BitVec.toNat_ofNat]
    change (access.port - 0xCF8).toNat = _
    omega
  rw [portOverruns_iff_of_apart served (by decide),
    nullReads_iff served rfl]
  refine (faultsIff_portAccess_onPart served rfl).congr ?_
  refine iff_of_false (Pci.not_entryFaults small) ?_
  cases access with
  | inb => exact Bool.false_ne_true
  | inw => exact Bool.false_ne_true
  | inl => exact Bool.false_ne_true
  | outb => exact id
  | outw => exact id
  | outl => exact id

/-- Only the last register and the last page port are outside. -/
theorem faultsIff_dma (window : ServedByDma access.port) :
    FaultsIff (portAccess host machine access)
      (PortOverruns host machine access) := by
  obtain ⟨hdl, served⟩ := exists_dmaIndex window
  have placed := placed_dma host hdl
  have alone {own : I8237.DmaAccess}
      (taken : dmaInput (.port host access) = some own) :
      portAccess host machine access = .error .fault ↔
        ¬ I8237.HasPlace own := by
    have whole := @Component.serves_eq_error_iff _ _ _ _ _ _ _ _ dmaAlone
      machine _ _ taken .fault
    have places := @I8237.inBounds_iff machine.dma own
    rw [← places]
    refine Iff.trans ?_ (whole.trans not_ne_iff.symm)
    rw [deviceStep_port]
    exact Outcome.bind_ok_eq_error_iff.symm
  have entry := @faultsIff_portAccess_onPart host machine access _ _ _ _
    served placed
  rw [portOverruns_iff_of_dma window, nullReads_iff served placed]
  cases access with
  | outb port val =>
      exact (alone (if_pos window)).trans (or_iff_right id).symm
  | inb port =>
      refine (alone (if_pos window)).trans (or_iff_right ?_).symm
      cases hdl <;> exact Bool.false_ne_true
  | outw port val =>
      refine entry.congr (iff_of_false ?_
        (by rintro (reads | out) <;> assumption))
      cases hdl <;> exact Outcome.defined_abort
  | outl port val =>
      refine entry.congr (iff_of_false ?_
        (by rintro (reads | out) <;> assumption))
      cases hdl <;> exact Outcome.defined_abort
  | inw port =>
      refine entry.congr ?_
      cases hdl <;> exact iff_of_true rfl (.inl rfl)
  | inl port =>
      refine entry.congr ?_
      cases hdl <;> exact iff_of_true rfl (.inl rfl)

/-- The DAC is behind its palette. -/
theorem faultsIff_vga {base : Uint16} {history : Vga.DacHistory}
    (bounded : Vga.Bounded machine.video.vga history)
    (served : servedBy access.port = some index)
    (own : index = 15 ∨ index = 16)
    (placed : (registeredHandlers host)[index]? =
      some ((vgaregHandler base).onPart vgaPart)) :
    FaultsIff (portAccess host machine access)
      (PortOverruns host machine access) := by
  have entry := @faultsIff_portAccess_onPart host machine access _ _ _ _
    served placed
  rw [portOverruns_iff_of_vga served own, nullReads_iff served placed]
  refine entry.congr ?_
  cases access with
  | outb port val =>
      refine Iff.trans ?_ (or_iff_right id).symm
      change Vga.vgaregOutb machine.video.vga (port - base + base) val =
        .error .fault ↔ _
      rw [BitVec.sub_add_cancel]
      exact Vga.faultsIff_vgaregOutb bounded
  | inb port =>
      refine Iff.trans ?_ (or_iff_right Bool.false_ne_true).symm
      change Vga.vgaregInb machine.video.vga (port - base + base) =
        .error .fault ↔ _
      rw [BitVec.sub_add_cancel]
      exact Vga.faultsIff_vgaregInb bounded
  | outw port val =>
      refine iff_of_false ?_ (by rintro (reads | out) <;> assumption)
      change ¬ Vga.vgaregOutw machine.video.vga (port - base + base) val =
        .error .fault
      rw [(Vga.serves_outw bounded _ val).fault_iff]
      exact not_not_intro trivial
  | outl port val =>
      exact iff_of_false Outcome.defined_abort
        (by rintro (reads | out) <;> assumption)
  | inw port =>
      refine iff_of_false Outcome.defined_abort ?_
      rintro (reads | out)
      · exact Bool.false_ne_true reads
      · exact out
  | inl port =>
      refine iff_of_false Outcome.defined_abort ?_
      rintro (reads | out)
      · exact Bool.false_ne_true reads
      · exact out

theorem faultsIff_floppy (low : 0 ≤ machine.fdc.fifondx)
    (served : servedBy access.port = some 19) :
    FaultsIff (portAccess host machine access)
      (PortOverruns host machine access) := by
  have entry := @faultsIff_portAccess_onPart host machine access 19 _
    floppyPart (floppyHandler host) served rfl
  rw [portOverruns_iff_of_floppy served,
    @nullReads_iff host access _ _ floppyPart (floppyHandler host) served
      rfl]
  refine entry.congr ?_
  cases access with
  | outb port val =>
      refine Iff.trans ?_ (or_iff_right id).symm
      simp only [IoHandler.EntryFaults, floppyHandler, callOut,
        BitVec.sub_add_cancel]
      exact Floppy.faultsIff_floppyOutb low
  | inb port =>
      refine Iff.trans ?_ (or_iff_right Bool.false_ne_true).symm
      simp only [IoHandler.EntryFaults, floppyHandler, callIn,
        BitVec.sub_add_cancel]
      exact Iff.trans Outcome.bind_ok_eq_error_iff
        (Floppy.faultsIff_floppyInb low)
  | outw port val =>
      exact iff_of_false Outcome.defined_abort
        (by rintro (reads | out) <;> assumption)
  | outl port val =>
      exact iff_of_false Outcome.defined_abort
        (by rintro (reads | out) <;> assumption)
  | inw port => exact iff_of_true rfl (.inl rfl)
  | inl port => exact iff_of_true rfl (.inl rfl)

theorem faultsIff_ata (fixed : Ata.Fixed machine.ata)
    (served : servedBy access.port = some 20) :
    FaultsIff (portAccess host machine access)
      (PortOverruns host machine access) := by
  have entry := @faultsIff_portAccess_onPart host machine access 20 _
    ataPart (pioHandler host) served rfl
  rw [portOverruns_iff_of_ata served,
    @nullReads_iff host access _ _ ataPart (pioHandler host) served rfl]
  refine entry.congr ?_
  have first {port : Uint16} : port - 0x1F0 = 0 ↔ port = 0x1F0 := by
    constructor <;> intro same <;> bv_omega
  cases access with
  | outb port val =>
      refine iff_of_false ?_ (by rintro (reads | out) <;> assumption)
      refine Ata.defined_pioOutb fixed fun control => ?_
      have shadowed : port = 0x3F6 := by
        have same : port - 0x1F0 = 0x206 := control
        bv_omega
      have floppy : servedBy 0x3F6 = some 19 := by
        decide
      rw [← shadowed] at floppy
      cases floppy.symm.trans served
  | inb port =>
      refine iff_of_false Ata.defined_pioInb ?_
      rintro (reads | out)
      · exact Bool.false_ne_true reads
      · exact out
  | outw port val =>
      refine Iff.trans ?_ (or_iff_right id).symm
      exact Iff.trans Ata.faultsIff_pioOutw (and_congr_left' first)
  | inw port =>
      refine Iff.trans ?_ (or_iff_right Bool.false_ne_true).symm
      exact Iff.trans Ata.faultsIff_pioInw (and_congr_left' first)
  | outl port val =>
      exact iff_of_false Outcome.defined_abort
        (by rintro (reads | out) <;> assumption)
  | inl port => exact iff_of_true rfl (.inl rfl)

theorem faultsIff_unclaimed (unclaimed : servedBy access.port = none) :
    FaultsIff (portAccess host machine access)
      (PortOverruns host machine access) := by
  obtain ⟨table, built, handlers⟩ := exists_registered host
  have missing : lookupHandler table access.port = none := by
    unfold lookupHandler
    rw [handlers, List.find?_eq_bind_findIdx?_getElem?]
    unfold servedBy at unclaimed
    rw [← map_window host, List.findIdx?_map] at unclaimed
    exact congrArg
      (Option.bind · fun index => (registeredHandlers host)[index]?)
      unclaimed
  have nothing : lookupDevice host access.port = none := by
    unfold lookupHandler at missing
    rw [handlers] at missing
    exact missing
  obtain ⟨data, answers⟩ :=
    @exists_data_of_unclaimed _ table access missing
  refine iff_of_false ?_ ?_
  · unfold portAccess
    rw [built, Outcome.ok_bind, answers]
    exact nofun
  · rintro (⟨handler, found, -⟩ | dma | palette | fifo | data)
    · cases nothing.symm.trans found
    · rcases dma.served with own | own | own <;>
        cases unclaimed.symm.trans own
    · cases unclaimed.symm.trans palette.served
    · cases unclaimed.symm.trans fifo.served
    · cases unclaimed.symm.trans data.served

end Ports

/-! ## What holds of the indices of every reachable machine -/

structure Sound (machine : Machine) : Prop where
  ready : Ready machine
  vga : ∃ history, Vga.Bounded machine.video.vga history
  fdc : 0 ≤ machine.fdc.fifondx
  para : 0 ≤ machine.para.off

section Machine

variable {host : Host} {machine next : Machine} {access : IoAccess}
variable {step : DeviceStep} {response : Vga.VideoResponse}
variable {data : IoData}

theorem placed_vga (host : Host) :
    (registeredHandlers host)[15]? =
        some ((vgaregHandler 0x3C0).onPart vgaPart) ∧
      (registeredHandlers host)[16]? =
        some ((vgaregHandler 0x3D0).onPart vgaPart) :=
  ⟨rfl, rfl⟩

theorem faultsIff_portAccess (sound : Sound machine) :
    FaultsIff (portAccess host machine access)
      (PortOverruns host machine access) := by
  obtain ⟨history, bounded⟩ := sound.vga
  obtain ⟨transfers, tracks⟩ := sound.ready.ata
  cases served : servedBy access.port with
  | none => exact faultsIff_unclaimed served
  | some index =>
      have small : index < 21 :=
        (List.findIdx?_eq_some_iff_getElem.mp served).1
      interval_cases index
      · exact faultsIff_of_quiet served rfl (by decide) (quiet_cmos _)
      · exact faultsIff_of_quiet served rfl (by decide) (quiet_ps2Pos _)
      · exact faultsIff_of_quiet served rfl (by decide)
          (quiet_stateless (by simp))
      · exact faultsIff_dma (.inl served)
      · exact faultsIff_dma (.inr (.inl served))
      · exact faultsIff_dma (.inr (.inr served))
      · exact faultsIff_pci served
      · exact faultsIff_of_quiet served rfl (by decide)
          (quiet_para sound.para)
      · exact faultsIff_of_quiet served rfl (by decide)
          (quiet_kbd sound.ready.kbd)
      · exact faultsIff_of_quiet served rfl (by decide)
          (quiet_stateless (by simp [parportHandlers, serportHandlers]))
      · exact faultsIff_of_quiet served rfl (by decide)
          (quiet_stateless (by simp [parportHandlers, serportHandlers]))
      · exact faultsIff_of_quiet served rfl (by decide)
          (quiet_stateless (by simp [parportHandlers, serportHandlers]))
      · exact faultsIff_of_quiet served rfl (by decide)
          (quiet_stateless (by simp [parportHandlers, serportHandlers]))
      · exact faultsIff_of_quiet served rfl (by decide)
          (quiet_stateless (by simp [parportHandlers, serportHandlers]))
      · exact faultsIff_of_quiet served rfl (by decide)
          (quiet_stateless (by simp [parportHandlers, serportHandlers]))
      · exact faultsIff_vga bounded served (.inl rfl) (placed_vga host).1
      · exact faultsIff_vga bounded served (.inr rfl) (placed_vga host).2
      · exact faultsIff_of_quiet served rfl (by decide)
          (quiet_stateless (by simp))
      · exact faultsIff_of_quiet served rfl (by decide)
          (quiet_stateless (by simp))
      · exact faultsIff_floppy sound.fdc served
      · exact faultsIff_ata tracks.fixed served

/-! ### One step -/

theorem vga_spared : SparedBy [15, 16] vgaPart.get where
  cmos := .inr fun _ _ => rfl
  a20 := .inr fun _ _ => rfl
  dma := .inr fun _ _ => rfl
  pci := .inr fun _ _ => rfl
  para := .inr fun _ _ => rfl
  kbd := .inr fun _ _ => rfl
  vga := .inl (by decide)
  floppy := .inr fun _ _ => rfl
  ata := .inr fun _ _ => rfl

theorem bounded_serve {base : Uint16} {ctx after : Vga.VgaCtx}
    {history : Vga.DacHistory} (bounded : Vga.Bounded ctx history)
    (done : (vgaregHandler base).serve ctx access = .ok (data, after)) :
    ∃ later, Vga.Bounded after later := by
  cases access with
  | outb port val =>
      obtain ⟨stored, written, built⟩ := Outcome.bind_eq_ok_iff.mp done
      cases built
      exact ⟨_, (Vga.serves_outb bounded _ val).bounded _ written⟩
  | outw port val =>
      obtain ⟨stored, written, built⟩ := Outcome.bind_eq_ok_iff.mp done
      cases built
      exact ⟨_, (Vga.serves_outw bounded _ val).bounded _ written⟩
  | inb port =>
      obtain ⟨⟨val, stored⟩, read, built⟩ := Outcome.bind_eq_ok_iff.mp done
      cases built
      exact ⟨_, (Vga.serves_inb bounded _).bounded _ read⟩
  | outl => cases done
  | inw => cases done
  | inl => cases done

theorem bounded_portAccess {history : Vga.DacHistory}
    (bounded : Vga.Bounded machine.video.vga history)
    (accessed : portAccess host machine access = .ok (data, next)) :
    ∃ later, Vga.Bounded next.video.vga later := by
  by_cases first : servedBy access.port = some 15
  · rw [portAccess_onPart first (placed_vga host).1] at accessed
    obtain ⟨⟨answer, after⟩, served, built⟩ :=
      Outcome.bind_eq_ok_iff.mp accessed
    cases built
    exact bounded_serve bounded served
  by_cases second : servedBy access.port = some 16
  · rw [portAccess_onPart second (placed_vga host).2] at accessed
    obtain ⟨⟨answer, after⟩, served, built⟩ :=
      Outcome.bind_eq_ok_iff.mp accessed
    cases built
    exact bounded_serve bounded served
  · have kept : vgaPart.get next = vgaPart.get machine := by
      refine view_of_apart vga_spared ?_ accessed
      intro index mem
      rcases List.mem_cons.mp mem with rfl | rest
      · exact first
      · rw [List.mem_singleton.mp rest]
        exact second
    have same : next.video.vga = machine.video.vga := kept
    rw [same]
    exact ⟨history, bounded⟩

theorem bounded_deviceStep {history : Vga.DacHistory}
    (bounded : Vga.Bounded machine.video.vga history)
    (stepped : deviceStep machine step = .ok (response, next)) :
    ∃ later, Vga.Bounded next.video.vga later := by
  cases step with
  | port host access =>
      obtain ⟨data, accessed, -⟩ := deviceStep_port_eq_ok_iff.mp stepped
      exact bounded_portAccess bounded accessed
  | write address len pData =>
      obtain ⟨⟨_, video⟩, accessed, built⟩ :=
        Outcome.bind_eq_ok_iff.mp stepped
      obtain ⟨⟨result, after⟩, written, shown⟩ :=
        Outcome.bind_eq_ok_iff.mp accessed
      cases shown
      cases built
      exact ⟨history, bounded.of_same (Vga.sameIndices_write written)⟩
  | read address len =>
      obtain ⟨⟨_, video⟩, accessed, built⟩ :=
        Outcome.bind_eq_ok_iff.mp stepped
      obtain ⟨⟨result, pData, after⟩, delivered, shown⟩ :=
        Outcome.bind_eq_ok_iff.mp accessed
      cases shown
      cases built
      cases Vga.eq_of_read delivered
      exact ⟨history, bounded⟩
  | key =>
      cases stepped
      exact ⟨history, bounded⟩
  | ram =>
      cases stepped
      exact ⟨history, bounded⟩

theorem low_deviceStep (low : 0 ≤ machine.fdc.fifondx)
    (stepped : deviceStep machine step = .ok (response, next)) :
    0 ≤ next.fdc.fifondx := by
  cases step with
  | port host access =>
      obtain ⟨data, accessed, -⟩ := deviceStep_port_eq_ok_iff.mp stepped
      by_cases served : servedBy access.port = some 19
      · cases access with
        | outb port val =>
            obtain ⟨after, called, rfl⟩ :=
              floppyOutb_of_port served accessed
            exact Floppy.low_floppyOutb low called
        | inb port =>
            rw [@portAccess_floppy machine host (.inb port) served]
              at accessed
            simp only [IoHandler.serve, floppyHandler, callIn,
              BitVec.sub_add_cancel, bind_assoc, pure_bind] at accessed
            obtain ⟨⟨val, fdc⟩, called, built⟩ :=
              Outcome.bind_eq_ok_iff.mp accessed
            cases built
            exact Floppy.low_floppyInb low called
        | outw =>
            rw [portAccess_floppy served] at accessed
            cases accessed
        | outl =>
            rw [portAccess_floppy served] at accessed
            cases accessed
        | inw =>
            rw [portAccess_floppy served] at accessed
            cases accessed
        | inl =>
            rw [portAccess_floppy served] at accessed
            cases accessed
      · have kept : next.fdc = machine.fdc :=
          view_of_apart fdc_spared
            (fun index mem => by
              rw [List.mem_singleton.mp mem]
              exact served) accessed
        rw [kept]
        exact low
  | write => exact (fdc_of_offPorts stepped trivial).symm ▸ low
  | read => exact (fdc_of_offPorts stepped trivial).symm ▸ low
  | key => exact (fdc_of_offPorts stepped trivial).symm ▸ low
  | ram => exact (fdc_of_offPorts stepped trivial).symm ▸ low

theorem low_para {own : Host × IoAccess} {ctx after : Qemu.Ctx}
    (low : 0 ≤ ctx.off)
    (served : handlerCall (fun _ => qemuparaHandler) ctx own =
      .ok (data, after)) : 0 ≤ after.off := by
  obtain ⟨host, access⟩ := own
  cases access with
  | inb port =>
      obtain ⟨⟨val, stored⟩, read, built⟩ :=
        Outcome.bind_eq_ok_iff.mp served
      cases built
      exact Qemu.low_qemuparaInb low read
  | outw port val =>
      obtain ⟨stored, written, built⟩ := Outcome.bind_eq_ok_iff.mp served
      cases built
      exact Qemu.low_qemuparaOutw low written
  | outb => cases served
  | outl => cases served
  | inw => cases served
  | inl => cases served

theorem Sound.deviceStep (sound : Sound machine)
    (stepped : deviceStep machine step = .ok (response, next)) :
    Sound next where
  ready := ready_deviceStep sound.ready stepped
  vga := by
    obtain ⟨history, bounded⟩ := sound.vga
    exact bounded_deviceStep bounded stepped
  fdc := low_deviceStep sound.fdc stepped
  para := @Component.preserves _ _ _ _ _ _ _ _ paraSlot.component _ _ _ _
    (fun ctx => 0 ≤ ctx.off) (fun low served => low_para low served)
    sound.para stepped

theorem sound_start {around : Surroundings}
    (start : Machine.start around = .ok machine) : Sound machine where
  ready := ready_start start
  vga := by
    obtain ⟨video, built, rest⟩ := Outcome.bind_eq_ok_iff.mp start
    obtain ⟨pci, -, loaded⟩ := Outcome.bind_eq_ok_iff.mp built
    obtain ⟨rom, -, made⟩ := Outcome.bind_eq_ok_iff.mp loaded
    cases made
    cases rest
    exact ⟨_, Vga.indicesBounded_start around.pVRAM⟩
  fdc := by
    obtain ⟨video, -, built⟩ := Outcome.bind_eq_ok_iff.mp start
    cases built
    exact Int.le_refl 0
  para := by
    rw [(started_of_start start).para]
    exact Int.le_refl 0

end Machine

/-! ## Every step -/

/-- The steps that touch memory outside every object. -/
def Overruns (machine : Machine) : DeviceStep → Prop
  | .port host access => PortOverruns host machine access
  | .write address len _ => Vga.WriteOverruns machine.video address len
  | .read address len => Vga.ReadOverruns machine.video address len
  | _ => False

theorem faultsIff_deviceStep {machine : Machine} {step : DeviceStep}
    (sound : Sound machine) :
    FaultsIff (deviceStep machine step) (Overruns machine step) := by
  cases step with
  | port host access =>
      rw [deviceStep_port]
      exact (faultsIff_portAccess sound).map
  | write address len pData =>
      exact FaultsIff.map (FaultsIff.map Vga.faultsIff_write)
  | read address len =>
      exact FaultsIff.map (FaultsIff.map Vga.faultsIff_read)
  | key => exact FaultsIff.returns
  | ram => exact FaultsIff.returns

end Kvmulate.Devices
