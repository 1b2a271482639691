import Kvmulate.Dma
import Kvmulate.Lib.HostFile
import Kvmulate.Lib.Run

/-!
# The floppy controller

The functions of `devices/x86/floppy.c`.  The argument `port` is the port of
the access after `port += hdl->base`.
-/

namespace Kvmulate.Floppy

open DeviceLib

/-! ## Registers and codes -/

def regDigitalOut : Uint16 := 0x3F2
def regMainStatus : Uint16 := 0x3F4
def regDataFifo : Uint16 := 0x3F5
def regConfigurationControl : Uint16 := 0x3F7

def cmdReadData : Uint8 := 0x6
def cmdRecalibrate : Uint8 := 0x7
def cmdSenseInterrupt : Uint8 := 0x8
def cmdReadId : Uint8 := 0xA
def cmdSeek : Uint8 := 0xF

def dorNReset : Uint8 := 0x04
def msrRqm : Uint8 := 0x80
def msrDio : Uint8 := 0x40
def msrCb : Uint8 := 0x10

structure FdcPos where
  cyl : Uint8
  head : Uint8
  sect : Uint8
deriving DecidableEq, Repr

/-- The static `fdc`, with the level last given to `irq_set(6, ..)`.  The
image file is absent if it could not be opened. -/
structure Fdc where
  sra : Uint8
  srb : Uint8
  msr : Uint8
  dor : Uint8
  ccr : Uint8
  dsr : Uint8
  st : Vector Uint8 3
  fifo : Vector Uint8 (512 + 10)
  fifondx : Int
  fifolen : Int
  pos : FdcPos
  image : Option HostFile
  pDMABuffer : Vector Uint8 dmaBufferSize
  irq6 : Bool

/-- The controller, what READ DATA transfers through, and the commands that
`doExecuteCommand` was called for, which the source does not keep. -/
structure FloppySystem where
  fdc : Fdc
  dma : Dma
  lowMem : LowMem
  executed : List (List Uint8)

/-! ## Functions -/

def doReset (fdc : Fdc) : Fdc :=
  { fdc with
    sra := 0
    srb := 0
    msr := msrRqm
    dor := 0
    ccr := 0
    dsr := 0
    fifondx := 0
    fifolen := 0 }

/-- The state that `x86_floppy_init` leaves.  What `malloc` returns is not
initialized. -/
def x86FloppyInit (image : Option (List Byte))
    (allocated : Vector Uint8 dmaBufferSize) (dma : Dma) (lowMem : LowMem) :
    FloppySystem where
  fdc := doReset
    { sra := 0
      srb := 0
      msr := 0
      dor := 0
      ccr := 0
      dsr := 0
      st := Vector.replicate 3 0
      fifo := Vector.replicate (512 + 10) 0
      fifondx := 0
      fifolen := 0
      pos := ⟨0, 0, 1⟩
      image := image.map fun data => ⟨data, 0⟩
      pDMABuffer := allocated
      irq6 := false }
  dma := dma
  lowMem := lowMem
  executed := []

def chsToLba (c h s : Uint8) : Uint32 :=
  18 * 2 * c.setWidth 32 + h.setWidth 32 * 18 + (s.setWidth 32 - 1)

def floppyInb (fdc : Fdc) (port : Uint16) : Outcome (Uint8 × Fdc) :=
  if port = regMainStatus then pure (fdc.msr, fdc)
  else if port = regDigitalOut then pure (fdc.dor, fdc)
  else if port = regDataFifo then do
    let r ← load fdc.fifo fdc.fifondx
    let fifondx := fdc.fifondx + 1
    if fdc.fifolen ≤ fifondx then
      pure (r, { fdc with msr := 0xA0, fifondx := 0, irq6 := false })
    else pure (r, { fdc with fifondx := fifondx })
  else .error .abort

/-- `fseek` and `fread` of READ DATA; both fault on a file that was not
opened. -/
def readImage (host : HostCalls) (fdc : Fdc) (lba : Uint32)
    (sectors : Uint8) : Outcome Fdc :=
  match fdc.image with
  | none => .error .fault
  | some file => do
      let (bytes, after) :=
        (file.seek host (lba * 512).toNat).read host (512 * sectors.toNat)
      let pDMABuffer ← storeList fdc.pDMABuffer 0 bytes
      pure { fdc with image := some after, pDMABuffer := pDMABuffer }

/-- The results of READ DATA and READ ID. -/
def Fdc.answerPosition (fdc : Fdc) : Fdc :=
  { fdc with
    msr := msrRqm ||| msrDio
    fifolen := 7
    fifondx := 0
    fifo :=
      ((((((fdc.fifo.set 0 fdc.st[0]).set 1 fdc.st[1]).set 2
        fdc.st[2]).set 3 fdc.pos.cyl).set 4 fdc.pos.head).set 5
          fdc.pos.sect).set 6 2
    irq6 := true }

def readData (host : HostCalls) (sys : FloppySystem) :
    Outcome FloppySystem := do
  let fdc := sys.fdc
  Outcome.assert (fdc.fifo[6] ≤ 128)
  let cyl := fdc.fifo[2]
  let head := fdc.fifo[3]
  let positioned :=
    { fdc with pos := { fdc.pos with cyl := cyl, head := head } }
  let lba := chsToLba cyl head fdc.fifo[4]
  let filled ← readImage host positioned lba fdc.fifo[6]
  let lowMem ←
    dmaTransferFromDevice sys.dma sys.lowMem 2 filled.pDMABuffer
      (fdc.fifo[6].toNat * 512)
  pure { sys with fdc := filled.answerPosition, lowMem := lowMem }

def recalibrate (fdc : Fdc) : Fdc :=
  { fdc with
    pos := { fdc.pos with cyl := 0 }
    msr := msrRqm
    fifolen := 1
    fifondx := 0
    irq6 := true }

def senseInterrupt (fdc : Fdc) : Fdc :=
  { fdc with
    msr := msrRqm ||| msrDio
    fifolen := 2
    fifondx := 0
    fifo := (fdc.fifo.set 0 fdc.st[0]).set 1 fdc.pos.cyl
    irq6 := false }

def seek (fdc : Fdc) : Fdc :=
  { fdc with
    pos := { fdc.pos with head := fdc.fifo[1] >>> 2, cyl := fdc.fifo[2] }
    fifolen := 0
    fifondx := 0
    msr := 0xA0
    irq6 := true }

/-- The low bits of the first byte select the command. -/
def doExecuteCommand (host : HostCalls) (called : FloppySystem) :
    Outcome FloppySystem :=
  let fdc := called.fdc
  let sys :=
    { called with
      executed := called.executed ++
        [fdc.fifo.toList.take fdc.fifondx.toNat] }
  let cmd := fdc.fifo[0] &&& 0xF
  if cmd = cmdReadData then readData host sys
  else if cmd = cmdRecalibrate then
    pure { sys with fdc := recalibrate fdc }
  else if cmd = cmdSenseInterrupt then
    pure { sys with fdc := senseInterrupt fdc }
  else if cmd = cmdReadId then
    pure { sys with fdc := fdc.answerPosition }
  else if cmd = cmdSeek then pure { sys with fdc := seek fdc }
  else pure sys

/-- The number of bytes of a command. -/
def commandLength (val : Uint8) : Outcome Int :=
  let cmd := val &&& 0xF
  if cmd = cmdReadData then pure 9
  else if cmd = cmdRecalibrate then pure 2
  else if cmd = cmdSenseInterrupt then pure 1
  else if cmd = cmdReadId then pure 2
  else if cmd = cmdSeek then pure 3
  else .error .abort

/-- A byte at the start of the FIFO says how many there will be. -/
def beginCommand (fdc : Fdc) (val : Uint8) : Outcome Fdc :=
  if fdc.fifondx = 0 then do
    let fifolen ← commandLength val
    pure { fdc with fifolen := fifolen, msr := fdc.msr ||| msrCb }
  else pure fdc

def writeFifo (host : HostCalls) (sys : FloppySystem) (val : Uint8) :
    Outcome FloppySystem := do
  let begun ← beginCommand sys.fdc val
  let fifo ← store begun.fifo begun.fifondx val
  let next :=
    { sys with
      fdc := { begun with fifo := fifo, fifondx := begun.fifondx + 1 } }
  if begun.fifolen ≤ begun.fifondx + 1 then doExecuteCommand host next
  else pure next

def writeDor (fdc : Fdc) (val : Uint8) : Fdc :=
  let started :=
    if val &&& dorNReset = 0 then { doReset fdc with irq6 := true }
    else fdc
  { started with dor := val &&& ~~~dorNReset }

def floppyOutb (host : HostCalls) (sys : FloppySystem) (port : Uint16)
    (val : Uint8) : Outcome FloppySystem :=
  if port = regDigitalOut then
    pure { sys with fdc := writeDor sys.fdc val }
  else if port = regDataFifo then writeFifo host sys val
  else if port = regConfigurationControl then
    pure { sys with
      fdc := { sys.fdc with
        ccr := val
        dsr := (sys.fdc.dsr &&& 0xFC) ||| (val &&& 3) } }
  else .error .abort

/-! ## Steps -/

/-- A guest access to the floppy ports, or a new programming of the DMA
controller. -/
inductive FloppyStep where
  | outb (port : Uint16) (val : Uint8)
  | inb (port : Uint16)
  | program (dma : Dma)
deriving DecidableEq

abbrev FloppyInput := HostCalls × FloppyStep

def floppyStep : Call FloppySystem FloppyInput (Option Uint8)
  | sys, (host, .outb port val) => do
      pure (none, ← floppyOutb host sys port val)
  | sys, (_, .inb port) => do
      let (val, fdc) ← floppyInb sys.fdc port
      pure (some val, { sys with fdc := fdc })
  | sys, (_, .program dma) => pure (none, { sys with dma := dma })

end Kvmulate.Floppy
