import Kvmulate.Floppy.Simulation
import Kvmulate.System.GuestMemory

/-!
# Reading sectors

A READ DATA command from its first byte to its last result: the FIFO gathers
the command, the sectors go through the DMA buffer to the guest, and the
results are read back.
-/

namespace Kvmulate.Floppy

open DeviceLib

/-- The block of a sector. -/
def blockOf (c h s : Uint8) : Nat :=
  36 * c.toNat + 18 * h.toNat + s.toNat - 1

/-- The first bytes of the image from a sector on. -/
def imageBytes (data : List Byte) (c h s : Uint8) (count : Nat) :
    List Byte :=
  (data.drop (512 * blockOf c h s)).take count

def writes (bytes : List Uint8) : List FloppyInput :=
  bytes.map fun val => (HostCalls.full, .outb regDataFifo val)

def reads (count : Nat) : List FloppyInput :=
  List.replicate count (HostCalls.full, .inb regDataFifo)

/-! ## The command -/

section Gather

variable {sys after : FloppySystem} {command : Command}
variable {first val : Uint8} {params rest : List Uint8}

/-- While a command is gathered, only the FIFO changes. -/
structure Waiting (sys after : FloppySystem) (command : Command)
    (first : Uint8) (params : List Uint8) : Prop where
  gathered : Gathered after.fdc command first params
  drive : SameDrive sys.fdc after.fdc
  dma : after.dma = sys.dma
  lowMem : after.lowMem = sys.lowMem

theorem SameDrive.trans {fdc middle next : Fdc}
    (former : SameDrive fdc middle) (latter : SameDrive middle next) :
    SameDrive fdc next :=
  ⟨latter.pos.trans former.pos, latter.st.trans former.st,
    latter.image.trans former.image,
    fun ready => latter.ready (former.ready ready)⟩

theorem Waiting.trans {middle : FloppySystem}
    (former : Waiting sys middle command first params)
    (latter : Waiting middle after command first (params ++ rest)) :
    Waiting sys after command first (params ++ rest) :=
  ⟨latter.gathered, former.drive.trans latter.drive,
    latter.dma.trans former.dma, latter.lowMem.trans former.lowMem⟩

theorem run_first (found : PhaseMatches sys.fdc .idle)
    (selects : commandOf first = some command)
    (more : 1 < command.length) :
    ∃ after, run floppyStep sys (writes [first]) = .ok ([none], after) ∧
      Waiting sys after command first [] := by
  obtain ⟨next, same, gathered, written⟩ :=
    @writeFifo_idle HostCalls.full sys command first found selects
  simp only [proceed] at written
  rw [if_pos more] at written
  exact ⟨_, run_one (floppyStep_of_writeFifo written),
    gathered, same, rfl, rfl⟩

/-- The bytes before the last one are gathered. -/
theorem run_params (gathered : Gathered sys.fdc command first params)
    (more : params.length + 1 + rest.length < command.length) :
    ∃ after,
      run floppyStep sys (writes rest) =
          .ok (List.replicate rest.length none, after) ∧
        Waiting sys after command first (params ++ rest) := by
  induction rest generalizing sys params with
  | nil =>
      refine ⟨sys, rfl, ?_, SameDrive.refl _, rfl, rfl⟩
      rw [List.append_nil]
      exact gathered
  | cons val rest inductionHypothesis =>
      rw [List.length_cons] at more
      obtain ⟨next, same, extended, written⟩ :=
        @writeFifo_command HostCalls.full sys command first val params
          gathered (by omega)
      simp only [proceed] at written
      rw [if_pos (by omega)] at written
      have called := floppyStep_of_writeFifo written
      obtain ⟨after, ran, waiting⟩ :=
        @inductionHypothesis { sys with fdc := next } (params ++ [val])
          extended (by
            rw [List.length_append, List.length_singleton]
            omega)
      have here :
          Waiting sys { sys with fdc := next } command first
            (params ++ [val]) := ⟨extended, same, rfl, rfl⟩
      have whole := here.trans waiting
      rw [List.append_assoc] at whole
      exact ⟨after, run_cons called ran, whole⟩

end Gather

/-! ## The transfer -/

section Transfer

variable {sys : FloppySystem} {fdc : Fdc} {file : HostFile}
variable {c h s k : Uint8} {lba : Uint32}

/-- The translation does not wrap. -/
theorem toNat_chsToLba (sector : 1 ≤ s.toNat) :
    (chsToLba c h s * 512).toNat = 512 * blockOf c h s := by
  have cylinder := c.isLt
  have head := h.isLt
  have last := s.isLt
  have widened (byte : Uint8) :
      (byte.setWidth 32).toNat = byte.toNat := by
    rw [BitVec.toNat_setWidth]
    omega
  have cylinderWide := widened c
  have headWide := widened h
  have sectorWide := widened s
  have heads : (18 * 2 : Uint32) = 36 := rfl
  simp only [chsToLba, blockOf]
  rw [heads]
  bv_omega

/-- The whole sectors start the DMA buffer. -/
theorem readImage_full (image : fdc.image = some file)
    (few : k.toNat ≤ 128)
    (held : (lba * 512).toNat + 512 * k.toNat ≤ file.data.length) :
    ∃ after buffer,
      readImage HostCalls.full fdc lba k =
          .ok { fdc with image := some after, pDMABuffer := buffer } ∧
        buffer.toList.take (512 * k.toNat) =
          (file.data.drop (lba * 512).toNat).take (512 * k.toNat) := by
  have length :
      ((file.data.drop (lba * 512).toNat).take
        (512 * k.toNat)).length = 512 * k.toNat := by
    rw [List.length_take, List.length_drop]
    omega
  obtain ⟨buffer, filled⟩ :=
    @exists_storeList_of_le _ _ fdc.pDMABuffer 0
      ((file.data.drop (lba * 512).toNat).take (512 * k.toNat)) (by
        rw [length]
        simp only [dmaBufferSize]
        omega)
  have list := toList_of_storeList filled
  refine ⟨
    ((file.seek HostCalls.full (lba * 512).toNat).read HostCalls.full
      (512 * k.toNat)).2, buffer, ?_, ?_⟩
  · simp only [readImage]
    rw [image]
    change (storeList fdc.pDMABuffer 0
      ((file.data.drop (lba * 512).toNat).take (512 * k.toNat)) >>= _) = _
    rw [filled]
    rfl
  · rw [list, List.take_zero, List.nil_append]
    exact List.take_left' length

/-- READ DATA with whole sectors and a destination in the low memory. -/
theorem readData_full (image : sys.fdc.image = some file)
    (cylinder : sys.fdc.byte 2 = c) (head : sys.fdc.byte 3 = h)
    (first : sys.fdc.byte 4 = s) (sectors : sys.fdc.byte 6 = k)
    (few : k.toNat ≤ 128) (sector : 1 ≤ s.toNat)
    (held : 512 * (blockOf c h s + k.toNat) ≤ file.data.length)
    (fits : sys.dma.count.toNat + 1 ≤ 512 * k.toNat)
    (inside : InLowMem sys.dma.destOff sys.dma.touched) :
    ∃ after, readData HostCalls.full sys = .ok after ∧
      sys.lowMem.Stored after.lowMem sys.dma.destOff.toNat
        (imageBytes file.data c h s (sys.dma.count.toNat + 1)) := by
  have translated := @toNat_chsToLba c h s sector
  obtain ⟨file', buffer, filled, whole⟩ :=
    @readImage_full
      { sys.fdc with pos := { sys.fdc.pos with cyl := c, head := h } }
      file k (chsToLba c h s) image few (by rw [translated]; omega)
  obtain ⟨lowMem, transferred⟩ :=
    (@exists_dmaTransfer_iff sys.dma sys.lowMem buffer
      (k.toNat * 512)).mpr inside
  have few' : k ≤ 128 := few
  let found : Fdc :=
    { sys.fdc with
      pos := { sys.fdc.pos with cyl := c, head := h }
      image := some file'
      pDMABuffer := buffer }
  refine ⟨
    { sys with
      fdc := found.answerPosition
      lowMem := lowMem }, ?_, ?_⟩
  · simp only [readData]
    simp only [sys.fdc.getElem_fifo (by decide : 2 < 522),
      sys.fdc.getElem_fifo (by decide : 3 < 522),
      sys.fdc.getElem_fifo (by decide : 4 < 522),
      sys.fdc.getElem_fifo (by decide : 6 < 522),
      cylinder, head, first, sectors,
      Outcome.assert_of few', filled, transferred, Outcome.ok_bind]
    rfl
  · have bytes :
        buffer.toList.take (sys.dma.count.toNat + 1) =
          imageBytes file.data c h s (sys.dma.count.toNat + 1) := by
      have front := congrArg (List.take (sys.dma.count.toNat + 1)) whole
      rw [List.take_take, List.take_take, Nat.min_eq_left fits,
        translated] at front
      exact front
    rw [← bytes]
    exact stored_of_dmaTransfer transferred

end Transfer

/-! ## The results -/

section Results

variable {sys : FloppySystem} {val : Uint8} {bytes : List Uint8}
variable {host : HostCalls}

/-- A read of the FIFO moves on to the next byte, if there is one. -/
theorem floppyStep_inb
    (loaded : load sys.fdc.fifo sys.fdc.fifondx = .ok val) :
    ∃ next, floppyStep sys (host, .inb regDataFifo) =
        .ok (some val, { sys with fdc := next }) ∧
      next.fifo = sys.fdc.fifo ∧ next.fifolen = sys.fdc.fifolen ∧
        (sys.fdc.fifondx + 1 < sys.fdc.fifolen →
          next.fifondx = sys.fdc.fifondx + 1) := by
  have read :
      floppyInb sys.fdc regDataFifo =
        if sys.fdc.fifolen ≤ sys.fdc.fifondx + 1 then
          .ok (val,
            { sys.fdc with msr := 0xA0, fifondx := 0, irq6 := false })
        else .ok (val, { sys.fdc with fifondx := sys.fdc.fifondx + 1 }) := by
    unfold floppyInb
    rw [if_neg (by decide : ¬ regDataFifo = regMainStatus),
      if_neg (by decide : ¬ regDataFifo = regDigitalOut), if_pos rfl,
      loaded]
    rfl
  have step :
      floppyStep sys (host, .inb regDataFifo) =
        floppyInb sys.fdc regDataFifo >>= fun delivered =>
          .ok (some delivered.1, { sys with fdc := delivered.2 }) := rfl
  by_cases last : sys.fdc.fifolen ≤ sys.fdc.fifondx + 1
  · rw [if_pos last] at read
    refine ⟨
      { sys.fdc with msr := 0xA0, fifondx := 0, irq6 := false }, ?_, rfl,
      rfl, fun more => ?_⟩
    · rw [step, read]
      rfl
    · omega
  · rw [if_neg last] at read
    refine ⟨{ sys.fdc with fifondx := sys.fdc.fifondx + 1 }, ?_, rfl,
      rfl, fun _ => rfl⟩
    rw [step, read]
    rfl

/-- Reads of the FIFO deliver what is left in it. -/
theorem run_reads {index : Nat} (at' : sys.fdc.fifondx = index)
    (length : sys.fdc.fifolen = index + bytes.length)
    (held : (sys.fdc.fifo.toList.drop index).take bytes.length = bytes) :
    ∃ after, run floppyStep sys (reads bytes.length) =
      .ok (bytes.map some, after) := by
  induction bytes generalizing sys index with
  | nil =>
      exact ⟨sys, rfl⟩
  | cons val rest inductionHypothesis =>
      have loaded := load_of_drop held
      rw [← at'] at loaded
      obtain ⟨next, called, fifo, kept, moves⟩ :=
        @floppyStep_inb sys val HostCalls.full loaded
      rw [List.length_cons] at length
      by_cases last : rest = []
      · subst last
        exact ⟨_, run_one called⟩
      · have some := List.length_pos_iff.mpr last
        have index' : next.fifondx = ((index + 1 : Nat) : Int) := by
          rw [moves (by omega), at']
          rfl
        have held' :
            (next.fifo.toList.drop (index + 1)).take rest.length =
              rest := by
          have tail := congrArg List.tail held
          rw [List.tail_cons, ← List.drop_one, List.length_cons,
            List.drop_take, List.drop_drop] at tail
          rw [fifo]
          exact tail
        obtain ⟨after, ran⟩ :=
          @inductionHypothesis { sys with fdc := next } (index + 1) index'
            (by
              change next.fifolen = _
              rw [kept, length]
              push_cast
              omega) held'
        exact ⟨after, run_cons called ran⟩

end Results

/-! ## The whole command -/

section Whole

variable {sys : FloppySystem} {file : HostFile}
variable {first unit c h s size k gap len : Uint8} {dest count : Nat}

/-- The first eight bytes are gathered. -/
theorem run_front (found : PhaseMatches sys.fdc .idle)
    (selects : commandOf first = some .readData) :
    ∃ after,
      run floppyStep sys (writes [first, unit, c, h, s, size, k, gap]) =
          .ok (List.replicate 8 none, after) ∧
        Waiting sys after .readData first
          [unit, c, h, s, size, k, gap] := by
  obtain ⟨begun, ranFirst, started⟩ :=
    run_first found selects (by decide)
  obtain ⟨after, ranRest, waiting⟩ :=
    @run_params begun .readData first []
      [unit, c, h, s, size, k, gap] started.gathered
      (by decide : 0 + 1 + 7 < 9)
  exact ⟨after, run_append ranFirst ranRest, started.trans waiting⟩

/-- The last byte executes the command with the nine bytes in the FIFO. -/
theorem writeFifo_last {waited : FloppySystem}
    (waiting : Waiting sys waited .readData first
      [unit, c, h, s, size, k, gap]) :
    ∃ ready : FloppySystem,
      writeFifo HostCalls.full waited len =
          readData HostCalls.full ready ∧
        SameDrive sys.fdc ready.fdc ∧ ready.dma = sys.dma ∧
          ready.lowMem = sys.lowMem ∧
        ∀ index, index < 9 → ready.fdc.byte index =
          [first, unit, c, h, s, size, k, gap, len].getD index 0 := by
  obtain ⟨next, same, gathered, written⟩ :=
    @writeFifo_command HostCalls.full waited .readData first len _
      waiting.gathered (by decide : 7 + 1 < 9)
  refine ⟨
    { waited with
      fdc := next
      executed := waited.executed ++
        [[first, unit, c, h, s, size, k, gap, len]] },
    ?_, waiting.drive.trans same, waiting.dma, waiting.lowMem, ?_⟩
  · have full :
        ¬ [unit, c, h, s, size, k, gap].length + 2 <
          Command.readData.length :=
      (by decide : ¬ 7 + 2 < 9)
    rw [written, proceed, if_neg full, doExecuteCommand_of gathered]
    rfl
  · intro index inside
    exact @Gathered.byte _ _ _ _ gathered index inside

/-- What READ DATA answers and stores, once the last byte is written. -/
theorem run_last {waited : FloppySystem}
    (waiting : Waiting sys waited .readData first
      [unit, c, h, s, size, k, gap])
    (image : sys.fdc.image = some file)
    (sector : 1 ≤ s.toNat) (few : k.toNat ≤ 128)
    (programmed : sys.dma.destOff.toNat = dest ∧
      sys.dma.count.toNat + 1 = count)
    (fits : count ≤ 512 * k.toNat)
    (inside : InLowMem sys.dma.destOff sys.dma.touched)
    (held : 512 * (blockOf c h s + k.toNat) ≤ file.data.length) :
    ∃ (after : FloppySystem) (filled : Fdc),
      run floppyStep waited (writes [len]) = .ok ([none], after) ∧
        sys.lowMem.Stored after.lowMem dest
          (imageBytes file.data c h s count) ∧
        after.fdc = filled.answerPosition ∧
          filled.pos = { sys.fdc.pos with cyl := c, head := h } ∧
            filled.st = sys.fdc.st := by
  obtain ⟨rfl, rfl⟩ := programmed
  obtain ⟨ready, executed, drive, dma, lowMem, bytes⟩ :=
    @writeFifo_last sys first unit c h s size k gap len waited waiting
  have cylinder : ready.fdc.byte 2 = c := bytes 2 (by decide)
  have head : ready.fdc.byte 3 = h := bytes 3 (by decide)
  have sectorByte : ready.fdc.byte 4 = s := bytes 4 (by decide)
  have sectors : ready.fdc.byte 6 = k := bytes 6 (by decide)
  obtain ⟨after, done, stored⟩ :=
    @readData_full ready file c h s k (drive.image.trans image) cylinder
      head sectorByte sectors few sector held (by rw [dma]; exact fits)
      (by rw [dma]; exact inside)
  rw [lowMem, dma] at stored
  obtain ⟨filled, shown, pos, st, -⟩ := readData_fdc done
  refine ⟨after, filled,
    run_one (floppyStep_of_writeFifo (executed.trans done)), stored,
    shown, ?_, st.trans drive.st⟩
  rw [pos, drive.pos, cylinder, head]

/-- The last byte is taken only where the transfer stays in the low memory. -/
theorem inLowMem_of_run {after : FloppySystem} {answers : List (Option Uint8)}
    (found : PhaseMatches sys.fdc .idle)
    (selects : commandOf first = some .readData) (few : k.toNat ≤ 128)
    (ran : run floppyStep sys
      (writes [first, unit, c, h, s, size, k, gap, len]) =
        .ok (answers, after)) :
    InLowMem sys.dma.destOff sys.dma.touched := by
  obtain ⟨waited, ranFront, waiting⟩ :=
    @run_front sys first unit c h s size k gap found selects
  obtain ⟨ready, executed, drive, dma, lowMem, bytes⟩ :=
    @writeFifo_last sys first unit c h s size k gap len waited waiting
  have snoc : writes [first, unit, c, h, s, size, k, gap, len] =
      writes [first, unit, c, h, s, size, k, gap] ++
        [(HostCalls.full, .outb regDataFifo len)] := rfl
  rw [snoc] at ran
  obtain ⟨middle, before, response, ranBefore, last⟩ :=
    run_snoc_eq_ok_iff.mp ran
  obtain rfl : middle = waited := by
    rw [ranFront] at ranBefore
    exact (Prod.mk.inj (Except.ok.inj ranBefore)).2.symm
  obtain ⟨written, wrote, -⟩ := Outcome.bind_eq_ok_iff.mp last.1
  have returns : ∃ after, readData HostCalls.full ready = .ok after :=
    ⟨written, executed.symm.trans wrote⟩
  have sectors : ready.fdc.byte 6 ≤ 128 := by
    rw [bytes 6 (by decide)]
    exact few
  have inside := ((exists_readData_iff sectors).mp returns).2
  rw [dma] at inside
  exact inside

/-- The nine bytes of READ DATA bring the addressed sectors to the programmed
window of the guest and leave its other bytes alone; then IRQ 6 is raised and
the seven results are there to be read. -/
def ReadDelivers (guest : System.Sys) (memory : ByteMemory 64)
    (sys : FloppySystem) (data : List Byte) (command : List Uint8)
    (c h s : Uint8) : Prop :=
  ∃ after last,
    run floppyStep sys (writes command) =
        .ok (List.replicate 9 none, after) ∧
      guest.Delivers memory sys.lowMem after.lowMem
        sys.dma.destOff.toNat
        (imageBytes data c h s (sys.dma.count.toNat + 1)) ∧
      after.fdc.irq6 = true ∧
      run floppyStep after (reads 7) =
        .ok ((sys.fdc.st.toList ++ [c, h, sys.fdc.pos.sect, 2]).map some,
          last)

/-- In the RAM below the video memory, the guest is shown the first buffer. -/
theorem shown_of_low {vgabios : System.Rom} {start length : Nat}
    (low : start + length ≤ 0xA0000) (addr : Uint64)
    (_above : start ≤ addr.toNat) (below : addr.toNat < start + length) :
    System.ShowsLowMem vgabios addr := by
  apply Or.inl
  omega

theorem length_imageBytes_le (data : List Byte) (c h s : Uint8)
    (count : Nat) : (imageBytes data c h s count).length ≤ count :=
  List.length_take_le _ _

theorem readDelivers_of_inLowMem {kvm : System.Kvm}
    {seabios vgabios : System.Rom} {blocks : Fin 4 → Uint64}
    {uNumMegsRAM : Uint32} {guest : System.Sys}
    (created : System.Created kvm seabios vgabios blocks uNumMegsRAM guest)
    (memory : ByteMemory 64) (found : PhaseMatches sys.fdc .idle)
    (selects : commandOf first = some .readData)
    (image : sys.fdc.image = some file)
    (sector : 1 ≤ s.toNat) (few : k.toNat ≤ 128)
    (fits : sys.dma.count.toNat + 1 ≤ 512 * k.toNat)
    (low : sys.dma.destOff.toNat + (sys.dma.count.toNat + 1) ≤ 0xA0000)
    (inside : InLowMem sys.dma.destOff sys.dma.touched)
    (held : 512 * (blockOf c h s + k.toNat) ≤ file.data.length) :
    ReadDelivers guest memory sys file.data
      [first, unit, c, h, s, size, k, gap, len] c h s := by
  obtain ⟨waited, ranFront, waiting⟩ :=
    @run_front sys first unit c h s size k gap found selects
  obtain ⟨after, filled, ranLast, stored, shown, pos, st⟩ :=
    @run_last sys file first unit c h s size k gap len _ _ waited
      waiting image sector few ⟨rfl, rfl⟩ fits inside held
  have results :
      after.fdc.fifo.toList.take 7 =
        sys.fdc.st.toList ++ [c, h, sys.fdc.pos.sect, 2] := by
    rw [shown, answerPosition_results, pos, st]
  have length :
      (sys.fdc.st.toList ++ [c, h, sys.fdc.pos.sect, 2]).length = 7 := by
    rw [List.length_append, Vector.length_toList]
    rfl
  have index : after.fdc.fifondx = ((0 : Nat) : Int) := by
    rw [shown]
    rfl
  have fifolen :
      after.fdc.fifolen =
        ((0 : Nat) : Int) +
          (sys.fdc.st.toList ++ [c, h, sys.fdc.pos.sect, 2]).length := by
    rw [length, shown]
    rfl
  obtain ⟨last, ranReads⟩ :=
    run_reads index fifolen (by
      rw [List.drop_zero, length]
      exact results)
  rw [length] at ranReads
  have few := length_imageBytes_le file.data c h s
    (sys.dma.count.toNat + 1)
  refine ⟨after, last, run_append ranFront ranLast, ?_, ?_, ranReads⟩
  · exact created.delivers_of_stored stored
      (shown_of_low (by omega)) memory
  · rw [shown]
    rfl

/-- READ DATA delivers to a window in the RAM exactly where the five bytes that
the log line of the transfer loads are in the RAM as well. -/
theorem readData_delivers_iff {kvm : System.Kvm}
    {seabios vgabios : System.Rom} {blocks : Fin 4 → Uint64}
    {uNumMegsRAM : Uint32} {guest : System.Sys}
    (created : System.Created kvm seabios vgabios blocks uNumMegsRAM guest)
    (memory : ByteMemory 64) (found : PhaseMatches sys.fdc .idle)
    (selects : commandOf first = some .readData)
    (image : sys.fdc.image = some file)
    (sector : 1 ≤ s.toNat) (few : k.toNat ≤ 128)
    (programmed : sys.dma.destOff.toNat = dest ∧
      sys.dma.count.toNat + 1 = count)
    (fits : count ≤ 512 * k.toNat) (low : dest + count ≤ 0xA0000)
    (held : 512 * (blockOf c h s + k.toNat) ≤ file.data.length) :
    ReadDelivers guest memory sys file.data
        [first, unit, c, h, s, size, k, gap, len] c h s ↔
      dest + max count 5 ≤ 0xA0000 := by
  obtain ⟨rfl, rfl⟩ := programmed
  constructor
  · rintro ⟨after, last, ran, -⟩
    have inside := inLowMem_of_run found selects few ran
    simp only [InLowMem, Dma.touched, loggedBytes] at inside
    omega
  · intro inside
    exact readDelivers_of_inLowMem created memory found selects image
      sector few fits low (Or.inl inside) held

end Whole

/-! ## The first sector -/

/-- A controller with a disk of one sector, and channel 2 programmed. -/
def oneSectorSystem (page : Uint8) (addr count : Vector Uint8 2) :
    FloppySystem :=
  let regs : Vector (Vector Uint8 2) 7 :=
    #v[#v[0, 0], #v[0, 0], #v[0, 0], #v[0, 0], addr, count, #v[0, 0]]
  x86FloppyInit (some (List.replicate 512 0xAB)) (Vector.replicate _ 0)
    ⟨#v[⟨regs⟩, ⟨regs⟩], (Vector.replicate _ 0).setIfInBounds 1 page⟩
    ⟨Vector.replicate _ 0, Vector.replicate _ 0⟩

theorem idle_oneSectorSystem (page : Uint8) (addr count : Vector Uint8 2) :
    PhaseMatches (oneSectorSystem page addr count).fdc .idle :=
  ⟨rfl, (by decide : ¬ Flag (oneSectorSystem 0 #v[0, 0] #v[0, 0]).fdc _)⟩

theorem held_oneSector :
    512 * (blockOf 0 0 1 + (1 : Uint8).toNat) ≤
      (List.replicate 512 (0xAB : Byte)).length := by
  rw [List.length_replicate]
  decide

/-- Sixteen bytes of the first sector, brought to 0x1000. -/
theorem readData_delivers_sector :
    ∃ guest,
      System.Created System.checksOverlaps System.shortRom System.noRom
          System.mainBlocks System.mainMegs guest ∧
        (ReadDelivers guest (fun _ => 0)
            (oneSectorSystem 0 #v[0x00, 0x10] #v[0x0F, 0x00])
            (List.replicate 512 0xAB)
            [0x46, 0, 0, 0, 1, 2, 1, 0x1B, 0xFF] 0 0 1 ↔
          0x1000 + max 16 5 ≤ 0xA0000) := by
  obtain ⟨guest, created⟩ := System.exists_created
  have programmed :
      (oneSectorSystem 0 #v[0x00, 0x10] #v[0x0F, 0x00]).dma.destOff.toNat =
          0x1000 ∧
        (oneSectorSystem 0 #v[0x00, 0x10]
          #v[0x0F, 0x00]).dma.count.toNat + 1 = 16 :=
    (by decide +kernel)
  refine ⟨guest, created, ?_⟩
  exact @readData_delivers_iff
    (oneSectorSystem 0 #v[0x00, 0x10] #v[0x0F, 0x00])
    ⟨List.replicate 512 0xAB, 0⟩ _ _ _ _ _ _ _ _ _ _ _ _ _ _ _ _ _
    created _ (idle_oneSectorSystem _ _ _) (by decide) rfl (by decide)
    (by decide) programmed (by decide) (by decide) held_oneSector

/-- One byte for the last address of the RAM: the log line loads four bytes
behind it. -/
theorem not_always_readDelivers :
    ¬ ∀ (guest : System.Sys) (memory : ByteMemory 64) (sys : FloppySystem)
        (file : HostFile) (first unit c h s size k gap len : Uint8),
      System.Created System.checksOverlaps System.shortRom System.noRom
          System.mainBlocks System.mainMegs guest →
        PhaseMatches sys.fdc .idle → commandOf first = some .readData →
        sys.fdc.image = some file → 1 ≤ s.toNat → k.toNat ≤ 128 →
        sys.dma.count.toNat + 1 ≤ 512 * k.toNat →
        sys.dma.destOff.toNat + (sys.dma.count.toNat + 1) ≤ 0xA0000 →
        512 * (blockOf c h s + k.toNat) ≤ file.data.length →
          ReadDelivers guest memory sys file.data
            [first, unit, c, h, s, size, k, gap, len] c h s := by
  intro always
  obtain ⟨guest, created⟩ := System.exists_created
  have idle := idle_oneSectorSystem 0x09 #v[0xFF, 0xFF] #v[0, 0]
  have window :
      (oneSectorSystem 0x09 #v[0xFF, 0xFF] #v[0, 0]).dma.destOff.toNat =
          0x9FFFF ∧
        (oneSectorSystem 0x09 #v[0xFF, 0xFF]
          #v[0, 0]).dma.count.toNat = 0 :=
    (by decide +kernel)
  obtain ⟨after, last, ran, -⟩ :=
    always guest (fun _ => 0)
      (oneSectorSystem 0x09 #v[0xFF, 0xFF] #v[0, 0])
      ⟨List.replicate 512 0xAB, 0⟩ 0x06 0 0 0 1 2 1 0 0 created idle
      (by decide) rfl (by decide) (by decide)
      (by rw [window.2]; decide) (by rw [window.1, window.2])
      held_oneSector
  have inside :=
    inLowMem_of_run idle (by decide : commandOf 0x06 = some .readData)
      (by decide : (1 : Uint8).toNat ≤ 128) ran
  simp only [InLowMem, Dma.touched, loggedBytes, window] at inside
  omega

end Kvmulate.Floppy
